import ClusterLaunch.Config.Reader
import ClusterLaunch.Proofs.Network.Grammar

/-! # The notation of a layout

A network or an address can be written in several ways. The check of a configuration compares what
was read and shows it in its own words, so it cannot tell them apart. Only the address of the
resolver is shown as it was written.
-/

namespace ClusterLaunch

open Network Text

namespace TextSetting

/-- The settings of which the check shows the network that was read. -/
def networks : List TextSetting := [vpcCIDR, instanceCIDR, podCIDR, serviceCIDR]

/-- Two texts of a setting are the same, or they write the same network or the same address of the
controller. -/
inductive Alike : TextSetting → String → String → Prop
  | same (s : TextSetting) (t : String) : Alike s t t
  | network {s : TextSetting} {t u : String} {b : Block} (hs : s ∈ networks)
      (ht : Block.read t = .ok b) (hu : Block.read u = .ok b) : Alike s t u
  | controller {t u : String} {a : Address} (ht : Address.read t = .ok a)
      (hu : Address.read u = .ok a) : Alike controllerIP t u

/-- A text writes the leading `p` bits of an address, with blanks around it or not. -/
def Writes (t : String) (a p : Nat) : Prop :=
  ∃ s, IsBlockText s a p ∧ Padded s t.toList ∧ s.length ≤ maxNumeral

theorem Writes.exists_read {t : String} {a p : Nat} (h : Writes t a p) :
    ∃ b, Block.read t = .ok b ∧ b.base = a / 2 ^ (32 - p) * 2 ^ (32 - p) ∧ b.bits = p := by
  obtain ⟨_, ⟨hu, hm⟩, hpadded, hlen⟩ := h
  rename_i u m
  have hshort : m.length ≤ maxNumeral := by
    rw [List.length_append, List.length_cons] at hlen
    omega
  exact ⟨_, Block.read_of_padded hu hm hshort hpadded, Block.around_base _ hm.le, rfl⟩

/-- Bits beyond the mask, the form of the mask and blanks around a network make no difference. -/
theorem alike_of_writes {s : TextSetting} {t u : String} {a b p : Nat} (hs : s ∈ networks)
    (ht : Writes t a p) (hu : Writes u b p) (hbits : a / 2 ^ (32 - p) = b / 2 ^ (32 - p)) :
    s.Alike t u := by
  obtain ⟨x, hx, hxbase, hxbits⟩ := ht.exists_read
  obtain ⟨y, hy, hybase, hybits⟩ := hu.exists_read
  have hbase : x.base = y.base := by rw [hxbase, hybase, hbits]
  have hsize : x.size = y.size := by rw [Block.size, Block.size, hxbits, hybits]
  obtain rfl := Block.eq_of_base_of_size hbase hsize
  exact .network hs hx hy

theorem Alike.eq {s : TextSetting} {t u : String} (h : s.Alike t u)
    (hs : s ∉ controllerIP :: networks) : t = u := by
  cases h with
  | same => rfl
  | network hmem => exact absurd (List.mem_cons_of_mem _ hmem) hs
  | controller => exact absurd List.mem_cons_self hs

theorem Alike.readBlock_eq {s : TextSetting} {t u : String} (h : s.Alike t u)
    (hs : s ≠ controllerIP) : Block.read t = Block.read u := by
  cases h with
  | same => rfl
  | network _ ht hu => rw [ht, hu]
  | controller => exact absurd rfl hs

theorem Alike.readAddress_eq {s : TextSetting} {t u : String} (h : s.Alike t u)
    (hs : s ∉ networks) : Address.read t = Address.read u := by
  cases h with
  | same => rfl
  | network hmem => exact absurd hmem hs
  | controller ht hu => rw [ht, hu]

end TextSetting

namespace Config

/-- Two configurations differ at most in how networks and the address of the controller are
written. -/
structure Rewrites (c d : Config) : Prop where
  text : ∀ s : TextSetting, s.Alike (c.text s) (d.text s)
  createRecordSet : c.createRecordSet = d.createRecordSet
  recordSetTTL : c.recordSetTTL = d.recordSetTTL
  stackTags : c.stackTags = d.stackTags

namespace Rewrites

open TextSetting

variable {c d : Config} {s : TextSetting}

theorem text_eq (h : c.Rewrites d) (hs : s ∉ controllerIP :: networks) : c.text s = d.text s :=
  (h.text s).eq hs

theorem block_eq (h : c.Rewrites d) (hs : s ≠ controllerIP) : c.block s = d.block s := by
  rw [block, block, (h.text s).readBlock_eq hs]

theorem address_eq (h : c.Rewrites d) (hs : s ∉ networks) : c.address s = d.address s := by
  rw [address, address, (h.text s).readAddress_eq hs]

theorem checkRequired_eq (h : c.Rewrites d) : c.checkRequired = d.checkRequired := by
  have hkept : ∀ s ∈ required, c.text s = d.text s := fun s hs =>
    h.text_eq ((by decide : ∀ s ∈ required, s ∉ controllerIP :: networks) s hs)
  have hempty : (required.find? fun s => c.text s = "") = required.find? fun s => d.text s = "" := by
    rw [← List.head?_filter, ← List.head?_filter,
      List.filter_congr fun s hs => by rw [hkept s hs]]
  rw [checkRequired, checkRequired, hempty]

theorem checkRecordSet_eq (h : c.Rewrites d) : c.checkRecordSet = d.checkRecordSet := by
  rw [checkRecordSet, checkRecordSet, h.createRecordSet, h.recordSetTTL,
    h.text_eq (s := .hostedZone) (by decide)]

theorem checkNetwork_eq (h : c.Rewrites d) : c.checkNetwork = d.checkNetwork := by
  rw [checkNetwork, checkNetwork, h.text_eq (s := .routeTableId) (by decide),
    h.text_eq (s := .vpcId) (by decide), h.text_eq (s := .dnsServiceIP) (by decide),
    h.block_eq (s := .vpcCIDR) (by decide), h.block_eq (s := .instanceCIDR) (by decide),
    h.block_eq (s := .podCIDR) (by decide), h.block_eq (s := .serviceCIDR) (by decide),
    h.address_eq (s := .controllerIP) (by decide), h.address_eq (s := .dnsServiceIP) (by decide)]

theorem check_eq (h : c.Rewrites d) : c.check = d.check := by
  rw [check, check, h.checkRequired_eq, h.checkRecordSet_eq, h.checkNetwork_eq]

end Rewrites

/-- Configurations that differ only in how networks and the address of the controller are written
are both accepted, or both are refused with a fault of the same family and with the same message.
Bits beyond the mask, the form of the mask and blanks around it are such differences. -/
theorem check_ignores_notation {c d : Config} (h : c.Rewrites d) :
    ((c.check = .ok () ∧ d.check = .ok ()) ∨
      ∃ e f, c.check = .error e ∧ d.check = .error f ∧ e.family? = f.family? ∧
        e.message = f.message) ∧
    ∀ s ∈ TextSetting.networks, ∀ t u a b p, TextSetting.Writes t a p → TextSetting.Writes u b p →
      a / 2 ^ (32 - p) = b / 2 ^ (32 - p) → s.Alike t u := by
  refine ⟨?_, fun s hs t u a b p ht hu hbits => TextSetting.alike_of_writes hs ht hu hbits⟩
  rw [h.check_eq]
  cases d.check with
  | ok u => exact .inl ⟨rfl, rfl⟩
  | error e => exact .inr ⟨e, e, rfl, rfl, rfl, rfl⟩

/-- A configuration whose instances lie outside its network, as far as these are written. -/
def outlying (vpc inst : String) : Config where
  text
    | .vpcCIDR => vpc
    | .instanceCIDR => inst
    | s => if s.default = "" then "x" else s.default

theorem check_ignores_notation_hostmask :
    (outlying "10.0.0.0/24" "10.0.1.0/24").Rewrites
        (outlying "\t10.0.0.77/255.255.255.0" "10.0.1.9/0.0.0.255 ") ∧
      ∃ e f, (outlying "10.0.0.0/24" "10.0.1.0/24").check = .error e ∧
        (outlying "\t10.0.0.77/255.255.255.0" "10.0.1.9/0.0.0.255 ").check = .error f ∧
        e.message = "vpcCIDR (10.0.0.0/24) does not contain instanceCIDR (10.0.1.0/24)" ∧
        f.message = e.message := by
  have hrewrites : (outlying "10.0.0.0/24" "10.0.1.0/24").Rewrites
      (outlying "\t10.0.0.77/255.255.255.0" "10.0.1.9/0.0.0.255 ") := by
    refine ⟨fun s => ?_, rfl, rfl, rfl⟩
    cases s with
    | vpcCIDR =>
      exact .network (b := .around ⟨167772160, by decide⟩ 24 (by decide)) (by decide) rfl rfl
    | instanceCIDR =>
      exact .network (b := .around ⟨167772416, by decide⟩ 24 (by decide)) (by decide) rfl rfl
    | _ => exact .same _ _
  have hrefused : (outlying "10.0.0.0/24" "10.0.1.0/24").check = .error (.instanceOutside
      (.around ⟨167772160, by decide⟩ 24 (by decide))
      (.around ⟨167772416, by decide⟩ 24 (by decide))) := rfl
  obtain ⟨⟨hok, -⟩ | ⟨e, f, he, hf, -, hmessage⟩, -⟩ := check_ignores_notation hrewrites
  · cases hrefused.symm.trans hok
  · cases hrefused.symm.trans he
    exact ⟨hrewrites, _, f, hrefused, hf, rfl, hmessage.symm⟩

end Config

end ClusterLaunch

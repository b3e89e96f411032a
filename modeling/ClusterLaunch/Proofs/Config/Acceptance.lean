import ClusterLaunch.Cloud.Failure
import ClusterLaunch.Proofs.Config.Layout

/-! # What the check of a configuration accepts

The check passes exactly the configurations that name their cluster, have a consistent record set
and declare a sound layout. Whatever it finds wrong is a fault of the configuration, and a fault of
the notation only where a network or an address cannot be read.
-/

namespace ClusterLaunch.Config

open Network

structure Identified (c : Config) : Prop where
  dnsName : c.text .externalDNSName ≠ ""
  keyName : c.text .keyName ≠ ""
  region : c.text .region ≠ ""
  zone : c.text .availabilityZone ≠ ""
  clusterName : c.text .clusterName ≠ ""
  keyArn : c.text .kmsKeyArn ≠ ""

/-- A record set that is to be made has a zone and a lifetime. Otherwise the lifetime is untouched. -/
structure RecordSetFits (c : Config) : Prop where
  zone : c.createRecordSet = true → c.text .hostedZone ≠ ""
  lifetime : c.createRecordSet = true → 1 ≤ c.recordSetTTL
  untouched : c.createRecordSet = false → c.recordSetTTL = defaultLifetime

/-- A setting that holds a network or an address cannot be read. -/
inductive Malformed (c : Config) : Prop
  | block {s : TextSetting} {e : FormatError}
      (hs : s ∈ [.vpcCIDR, .instanceCIDR, .podCIDR, .serviceCIDR])
      (h : Block.read (c.text s) = .error e)
  | address {s : TextSetting} {e : FormatError} (hs : s ∈ [.controllerIP, .dnsServiceIP])
      (h : Address.read (c.text s) = .error e)

theorem checkRequired_eq_ok_iff {c : Config} : c.checkRequired = .ok () ↔ c.Identified := by
  have hnone : c.checkRequired = .ok () ↔ ∀ s ∈ TextSetting.required, c.text s ≠ "" := by
    unfold checkRequired
    cases h : TextSetting.required.find? fun s => c.text s = "" with
    | some s =>
      have hempty : c.text s = "" :=
        of_decide_eq_true (List.find?_some (p := fun s => decide (c.text s = "")) h)
      exact iff_of_false nofun fun hall => hall s (List.mem_of_find?_eq_some h) hempty
    | none => simpa using h
  rw [hnone]
  simp only [TextSetting.required, List.forall_mem_cons]
  constructor
  · rintro ⟨hdns, hkey, hregion, hzone, hcluster, harn, -⟩
    exact ⟨hdns, hkey, hregion, hzone, hcluster, harn⟩
  · rintro ⟨hdns, hkey, hregion, hzone, hcluster, harn⟩
    exact ⟨hdns, hkey, hregion, hzone, hcluster, harn, nofun⟩

theorem checkRecordSet_eq_ok_iff {c : Config} :
    c.checkRecordSet = .ok () ↔ c.RecordSetFits := by
  unfold checkRecordSet
  cases hflag : c.createRecordSet with
  | true =>
    simp only [if_true, guard_eq_ok_iff, Int.not_lt, and_true]
    constructor
    · rintro ⟨hzone, hlife⟩
      exact ⟨fun _ => hzone, fun _ => hlife, by simp [hflag]⟩
    · intro h
      exact ⟨h.zone hflag, h.lifetime hflag⟩
  | false =>
    simp only [Bool.false_eq_true, if_false, guard_eq_ok_iff, ne_eq, Decidable.not_not, and_true]
    constructor
    · intro h
      exact ⟨by simp [hflag], by simp [hflag], fun _ => h⟩
    · intro h
      exact h.untouched hflag

theorem check_eq_ok_iff {c : Config} :
    c.check = .ok () ↔ c.Identified ∧ c.RecordSetFits ∧
      (c.text .routeTableId ≠ "" → c.text .vpcId ≠ "") ∧ ∃ l, c.Declares l ∧ l.Sound := by
  rw [← checkRequired_eq_ok_iff, ← checkRecordSet_eq_ok_iff, ← checkNetwork_eq_ok_iff, check]
  simp only [bind_eq_ok_iff]
  constructor
  · rintro ⟨_, hrequired, _, hrecord, hnetwork⟩
    exact ⟨hrequired, hrecord, hnetwork⟩
  · rintro ⟨hrequired, hrecord, hnetwork⟩
    exact ⟨(), hrequired, (), hrecord, hnetwork⟩

def IsFinding (c : Config) (e : ConfigError) : Prop :=
  e.family? = some .clusterConfig ∨ e.family? = some .networkFormat ∧ c.Malformed

section Findings

variable (c : Config)

theorem failsWith_block {s : TextSetting}
    (hs : s ∈ [.vpcCIDR, .instanceCIDR, .podCIDR, .serviceCIDR]) :
    FailsWith c.IsFinding (c.block s) :=
  failsWith_mapError fun _ h => .inr ⟨rfl, .block hs h⟩

theorem failsWith_address {s : TextSetting} (hs : s ∈ [.controllerIP, .dnsServiceIP]) :
    FailsWith c.IsFinding (c.address s) :=
  failsWith_mapError fun _ h => .inr ⟨rfl, .address hs h⟩

theorem failsWith_checkRequired : FailsWith c.IsFinding c.checkRequired := by
  unfold checkRequired
  split
  · exact failsWith_error (.inl rfl)
  · exact failsWith_ok ()

theorem failsWith_checkRecordSet : FailsWith c.IsFinding c.checkRecordSet := by
  unfold checkRecordSet
  split
  · exact failsWith_guard (fun _ => .inl rfl)
      (failsWith_guard (fun _ => .inl rfl) (failsWith_ok ()))
  · exact failsWith_guard (fun _ => .inl rfl) (failsWith_ok ())

theorem failsWith_checkApart (s : TextSetting) (a : Block) (t : TextSetting) (b : Block) :
    FailsWith c.IsFinding (checkApart s a t b) :=
  failsWith_guard (fun _ => .inl rfl) (failsWith_ok ())

/-- Each step reads a setting or compares what was read, and only reading can fail for the
notation. -/
theorem failsWith_checkNetwork : FailsWith c.IsFinding c.checkNetwork := by
  simp only [checkNetwork, throw_eq_error, error_bind]
  refine failsWith_guard (fun _ => .inl rfl) ?_
  refine (failsWith_block c (by decide)).bind fun vpc _ => ?_
  refine (failsWith_block c (by decide)).bind fun inst _ => ?_
  refine failsWith_guard (fun _ => .inl rfl) ?_
  refine (failsWith_address c (by decide)).bind fun controller _ => ?_
  refine failsWith_guard (fun _ => .inl rfl) ?_
  refine (failsWith_block c (by decide)).bind fun pod _ => ?_
  refine (failsWith_block c (by decide)).bind fun service _ => ?_
  refine (failsWith_checkApart c _ _ _ _).bind fun _ _ => ?_
  refine (failsWith_checkApart c _ _ _ _).bind fun _ _ => ?_
  refine (failsWith_checkApart c _ _ _ _).bind fun _ _ => ?_
  refine (failsWith_address c (by decide)).bind fun resolver _ => ?_
  exact failsWith_guard (fun _ => .inl rfl) (failsWith_ok ())

theorem failsWith_check : FailsWith c.IsFinding c.check :=
  (failsWith_checkRequired c).bind fun _ _ =>
    (failsWith_checkRecordSet c).bind fun _ _ => failsWith_checkNetwork c

end Findings

/-- The check accepts exactly the configurations that name their cluster, whose record set fits, in
which a route table comes with its network, and whose six texts on networks and addresses can be
read and are laid out soundly. All other configurations are refused with a fault of the
configuration, which is one of the notation only if one of the six texts cannot be read. -/
theorem check_accepts_iff (c : Config) :
    (c.check = .ok () ↔ c.Identified ∧ c.RecordSetFits ∧
      (c.text .routeTableId ≠ "" → c.text .vpcId ≠ "") ∧ ∃ l, c.Declares l ∧ l.Sound) ∧
    ∀ e, c.check = .error e →
      e.family? = some .clusterConfig ∨ e.family? = some .networkFormat ∧ c.Malformed :=
  ⟨check_eq_ok_iff, failsWith_check c⟩

end ClusterLaunch.Config

import ClusterLaunch.Config.Basic
import ClusterLaunch.Proofs.Guard

/-! # What settings hold

A setting admits the values of its type. It is read from a value that it admits and of which nothing
keeps the parts from being written out, and all other values are refused. Setting one setting
leaves the others alone.
-/

namespace ClusterLaunch

/-- A value as plain text; nothing is the empty text. -/
def Heap.plain (h : Heap) : Value → String
  | .scalar .null => ""
  | v => h.text v

def Heap.plainEntries (h : Heap) : Collection → List (String × String)
  | .mapping entries => entries.map fun entry => (entry.1.toText, h.plain entry.2)
  | _ => []

namespace Setting

def Content : Setting → Type
  | text _ => String
  | createRecordSet => Bool
  | recordSetTTL => Int
  | stackTags => List (String × String)

/-- A value has the type of a setting. Of the flags and the collections only sets are texts. -/
inductive Admits (h : Heap) : Setting → Value → Prop
  | scalar {t : TextSetting} {s : Scalar} (hs : ∀ b, s ≠ .flag b) : Admits h (.text t) (.scalar s)
  | set {t : TextSetting} {id : Nat} {members : List Scalar} (hid : h.get id = .set members) :
      Admits h (.text t) (.collection id)
  | flag (b : Bool) : Admits h .createRecordSet (.scalar (.flag b))
  | integer (n : Int) : Admits h .recordSetTTL (.scalar (.integer n))
  | noTags : Admits h .stackTags (.scalar .null)
  | tags {id : Nat} {entries : List (Scalar × Value)} (hid : h.get id = .mapping entries) :
      Admits h .stackTags (.collection id)

def refusal : Setting → ConfigError
  | text t => .notText t
  | createRecordSet => .notFlag
  | recordSetTTL => .notInteger
  | stackTags => .notTags

/-- What first keeps the parts of a value from being written out. Flags and integers are not. -/
def obstacle? (h : Heap) : Setting → Value → Option Obstacle
  | text _, v => h.obstacle? v
  | stackTags, .collection id => (h.get id).values.findSome? h.obstacle?
  | _, _ => none

def content (h : Heap) : (s : Setting) → Value → s.Content
  | text _, v => h.plain v
  | createRecordSet, v => match v with
    | .scalar (.flag b) => b
    | _ => false
  | recordSetTTL, v => match v with
    | .scalar (.integer n) => n
    | _ => (0 : Int)
  | stackTags, v => match v with
    | .collection id => h.plainEntries (h.get id)
    | _ => []

theorem mem_all (s : Setting) : s ∈ all := by
  cases s with
  | text t => exact List.mem_append_left _ (List.mem_map_of_mem (TextSetting.mem_all t))
  | createRecordSet | recordSetTTL | stackTags => exact List.mem_append_right _ (by decide)

theorem key_injective {s t : Setting} (h : s.key = t.key) : s = t := by
  cases s with
  | text a =>
    cases t with
    | text b => exact congrArg text (TextSetting.key_injective h)
    | createRecordSet | recordSetTTL | stackTags => cases a <;> revert h <;> decide
  | createRecordSet | recordSetTTL | stackTags =>
    cases t with
    | text b => cases b <;> revert h <;> decide
    | createRecordSet | recordSetTTL | stackTags => first | rfl | (revert h; decide)

theorem ofKey?_eq_some_iff {key : String} {s : Setting} : ofKey? key = some s ↔ key = s.key := by
  constructor
  · intro h
    have hkey := List.find?_some (p := fun s : Setting => s.key == key) h
    exact (beq_iff_eq.mp hkey).symm
  · rintro rfl
    unfold ofKey?
    cases h : all.find? (·.key == s.key) with
    | none => exact absurd (beq_self_eq_true _) (List.find?_eq_none.mp h s (mem_all s))
    | some t =>
      have hkey := List.find?_some (p := fun t : Setting => t.key == s.key) h
      rw [key_injective (beq_iff_eq.mp hkey)]

end Setting

namespace Config

def get (c : Config) : (s : Setting) → s.Content
  | .text t => c.text t
  | .createRecordSet => c.createRecordSet
  | .recordSetTTL => c.recordSetTTL
  | .stackTags => c.stackTags

def put (c : Config) : (s : Setting) → s.Content → Config
  | .text t, value => c.setText t value
  | .createRecordSet, b => { c with createRecordSet := b }
  | .recordSetTTL, n => { c with recordSetTTL := n }
  | .stackTags, tags => { c with stackTags := tags }

@[simp] theorem get_put_self (c : Config) (s : Setting) (x : s.Content) :
    (c.put s x).get s = x := by
  cases s with
  | text t => exact text_setText_self c t x
  | createRecordSet | recordSetTTL | stackTags => rfl

theorem get_put_of_ne (c : Config) {s t : Setting} (h : t ≠ s) (x : s.Content) :
    (c.put s x).get t = c.get t := by
  cases s with
  | text a =>
    cases t with
    | text b => exact text_setText_of_ne c (fun hb => h (congrArg Setting.text hb)) x
    | createRecordSet | recordSetTTL | stackTags => rfl
  | createRecordSet | recordSetTTL | stackTags => cases t <;> first | rfl | exact absurd rfl h

theorem eq_of_get_eq {c d : Config} (h : ∀ s, c.get s = d.get s) : c = d := by
  obtain ⟨text, flag, ttl, tags⟩ := c
  obtain ⟨text', flag', ttl', tags'⟩ := d
  obtain rfl : text = text' := funext fun t => h (.text t)
  obtain rfl : flag = flag' := h .createRecordSet
  obtain rfl : ttl = ttl' := h .recordSetTTL
  obtain rfl : tags = tags' := h .stackTags
  rfl

def reading (h : Heap) (v : Value) : (s : Setting) → Except ConfigError s.Content
  | .text t => textOf h t v
  | .createRecordSet => flagOf v
  | .recordSetTTL => integerOf v
  | .stackTags => tagsOf h v

theorem assign_eq (h : Heap) (c : Config) (s : Setting) (v : Value) :
    assign h c s v = (reading h v s).map (c.put s) := by
  cases s <;> rfl

/-- A result if nothing is in the way of writing it. -/
def unhindered {α : Type} (obstacle? : Option Obstacle) (a : α) : Except ConfigError α :=
  match obstacle? with
  | some o => .error (.unwritable o)
  | none => .ok a

section Reading

variable {h : Heap} {s : Setting} {v : Value}

theorem obstacle?_null (h : Heap) : h.obstacle? (.scalar .null) = none := by
  simp [Heap.obstacle?, Heap.obstacleWithin, Scalar.isWritable]

theorem written_eq (h : Heap) (v : Value) :
    written h v = unhindered (h.obstacle? v) (h.text v) := rfl

theorem textOf_of_not_null {t : TextSetting} (hv : (Setting.text t).Admits h v)
    (hnull : v ≠ .scalar .null) : textOf h t v = written h v := by
  cases hv with
  | scalar hs =>
    rename_i s
    cases s with
    | null => exact absurd rfl hnull
    | flag b => exact absurd rfl (hs b)
    | _ => rfl
  | set hid => rw [textOf, hid]

theorem plain_of_not_null (hnull : v ≠ .scalar .null) : h.plain v = h.text v := by
  unfold Heap.plain
  split
  · exact absurd rfl hnull
  · rfl

theorem textOf_of_admits {t : TextSetting} (hv : (Setting.text t).Admits h v) :
    textOf h t v = unhindered (h.obstacle? v) (h.plain v) := by
  by_cases hnull : v = .scalar .null
  · subst hnull
    rw [obstacle?_null]
    rfl
  · rw [textOf_of_not_null hv hnull, written_eq, plain_of_not_null hnull]

theorem tagOf_eq (h : Heap) (key : Scalar) (v : Value) :
    tagOf h key v =
      unhindered ([.scalar key, v].findSome? h.obstacle?) (key.toText, h.plain v) := by
  rw [tagOf, written_eq, List.findSome?_cons, List.findSome?_cons, List.findSome?_nil]
  cases h.obstacle? (.scalar key) with
  | some o => rfl
  | none =>
    change (match v with
      | .scalar .null => Except.ok (key.toText, "")
      | v => written h v >>= fun value => Except.ok (key.toText, value)) = _
    split
    · rw [obstacle?_null]
      rfl
    · rename_i hnull
      rw [written_eq, plain_of_not_null hnull]
      cases h.obstacle? v <;> rfl

/-- The tags of a mapping are its entries, unless something keeps a key or a value from being
written out. -/
theorem mapM_tagOf (h : Heap) (entries : List (Scalar × Value)) :
    (entries.mapM fun (k, v) => tagOf h k v) =
      unhindered ((Collection.mapping entries).values.findSome? h.obstacle?)
        (h.plainEntries (.mapping entries)) := by
  induction entries with
  | nil => rfl
  | cons entry entries ih =>
    obtain ⟨key, v⟩ := entry
    have hvalues : (Collection.mapping ((key, v) :: entries)).values =
        [.scalar key, v] ++ (Collection.mapping entries).values := rfl
    rw [List.mapM_cons, ih]
    dsimp only
    rw [tagOf_eq, hvalues, List.findSome?_append]
    cases [.scalar key, v].findSome? h.obstacle? with
    | some o => rfl
    | none => cases (Collection.mapping entries).values.findSome? h.obstacle? <;> rfl

theorem reading_of_admits (hv : s.Admits h v) :
    reading h v s = unhindered (s.obstacle? h v) (s.content h v) := by
  cases s with
  | text t => exact textOf_of_admits hv
  | createRecordSet =>
    cases hv
    rfl
  | recordSetTTL =>
    cases hv
    rfl
  | stackTags =>
    cases hv with
    | noTags => rfl
    | @tags id entries hid =>
      change tagsOf h (.collection id) =
        unhindered ((h.get id).values.findSome? h.obstacle?) (h.plainEntries (h.get id))
      rw [tagsOf, hid]
      exact mapM_tagOf h entries

theorem reading_of_not_admits (hv : ¬ s.Admits h v) : reading h v s = .error s.refusal := by
  cases s with
  | text t =>
    change textOf h t v = .error (.notText t)
    unfold textOf
    split
    · exact absurd (.scalar nofun) hv
    · rfl
    · rename_i s _ hflag
      exact absurd (.scalar hflag) hv
    · split
      · rename_i hid
        exact absurd (.set hid) hv
      · rfl
  | createRecordSet =>
    change flagOf v = .error .notFlag
    unfold flagOf
    split
    · exact absurd (.flag _) hv
    · rfl
  | recordSetTTL =>
    change integerOf v = .error .notInteger
    unfold integerOf
    split
    · exact absurd (.integer _) hv
    · rfl
  | stackTags =>
    change tagsOf h v = .error .notTags
    unfold tagsOf
    split
    · exact absurd .noTags hv
    · rfl
    · split
      · rename_i hid
        exact absurd (.tags hid) hv
      · rfl

end Reading

end Config

end ClusterLaunch

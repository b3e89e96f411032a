import ClusterLaunch.Proofs.Decimal.Undefined
import ClusterLaunch.Proofs.Inputs.Sources
import ClusterLaunch.Proofs.Stack.Polling

/-! # Durations

A number of seconds is refused when it is zero or less. All that are accepted are positive, but for
the undefined double, which compares with nothing: its name is accepted, and a wait with this limit
is never over before the stack has stopped changing.
-/

namespace ClusterLaunch

open Decimal Inputs

def Data.IsUndefined (d : Data) : Prop :=
  match d.value with
  | .scalar (.number x _) => x = .nan
  | .scalar (.text s) => NamesUndefined s.toList
  | .scalar (.bytes bs) =>
    bs.all (· < 128) = true ∧ NamesUndefined (bs.map fun b => Char.ofNat b.toNat)
  | _ => False

inductive Data.StandsFor (d : Data) (x : Float) : Prop
  | text {s : String} (hvalue : d.value = .scalar (.text s)) (h : ofText? s.toList = some x)
  | bytes {bs : List UInt8} (hvalue : d.value = .scalar (.bytes bs)) (h : ofBytes? bs = some x)
  | flag {b : Bool} (hvalue : d.value = .scalar (.flag b)) (h : x = if b then 1.0 else 0.0)
  | number {origin : Nat} (hvalue : d.value = .scalar (.number x origin))
  | integer {n : Int} (hvalue : d.value = .scalar (.integer n)) (h : ofInt? n = some x)

inductive Refusal (name : String) (d : Data) : InputError → Prop
  | notNumber (h : ∀ x, ¬ d.StandsFor x) : Refusal name d (.notNumber name d.shown)
  | notPositive {x : Float} (h : d.StandsFor x) (hx : x ≤ 0.0) :
      Refusal name d (.notPositive name d.shown)
  | tooLarge {n : Int} (hvalue : d.value = .scalar (.integer n)) (h : ofInt? n = none) :
      Refusal name d .tooLarge
  /-- A value that is no number either, and that no message can show. -/
  | unwritable {o : Obstacle} (h : ∀ x, ¬ d.StandsFor x) (ho : d.heap.obstacle? d.value = some o) :
      Refusal name d (.unwritable o)

section Reading

variable {name : String} {fallback x : Float} {d : Data} {e : InputError}

theorem Data.StandsFor.secondsOf_eq (h : d.StandsFor x) : secondsOf name d = .ok x := by
  cases h with
  | text hvalue h | bytes hvalue h | integer hvalue h =>
    rw [secondsOf, hvalue]
    dsimp only
    rw [h]
  | flag hvalue h => rw [secondsOf, hvalue, h]
  | number hvalue => rw [secondsOf, hvalue]

theorem standsFor_of_secondsOf (h : secondsOf name d = .ok x) : d.StandsFor x := by
  unfold secondsOf at h
  split at h
  · rename_i hvalue
    split at h <;> cases h
    rename_i hread
    exact .text hvalue hread
  · rename_i hvalue
    split at h <;> cases h
    rename_i hread
    exact .bytes hvalue hread
  · rename_i hvalue
    exact .flag hvalue (Except.ok.inj h).symm
  · rename_i hvalue
    cases h
    exact .number hvalue
  · rename_i hvalue
    split at h <;> cases h
    rename_i hread
    exact .integer hvalue hread
  · split at h <;> cases h

theorem refusal_of_secondsOf (h : secondsOf name d = .error e) : Refusal name d e := by
  have hnone : ∀ x, ¬ d.StandsFor x := fun x hx => nomatch hx.secondsOf_eq.symm.trans h
  unfold secondsOf at h
  split at h
  · split at h <;> cases h
    exact .notNumber hnone
  · split at h <;> cases h
    exact .notNumber hnone
  · cases h
  · cases h
  · rename_i hvalue
    split at h <;> cases h
    rename_i hread
    exact .tooLarge hvalue hread
  · split at h <;> cases h
    · rename_i ho
      exact .unwritable hnone ho
    · exact .notNumber hnone

/-- Neither a flag nor an integer stands for the undefined double. -/
theorem standsFor_nan_iff : d.StandsFor .nan ↔ d.IsUndefined := by
  unfold Data.IsUndefined
  constructor
  · intro h
    cases h with
    | text hvalue h => simpa only [hvalue] using ofText?_eq_nan_iff.mp h
    | bytes hvalue h => simpa only [hvalue] using ofBytes?_eq_nan_iff.mp h
    | @flag b hvalue h =>
      refine absurd h.symm ?_
      rw [eq_nan_iff_unpack]
      cases b <;> exact nofun
    | number hvalue => simp only [hvalue]
    | integer hvalue h => exact absurd h (ofInt?_ne_nan _)
  · intro h
    split at h
    · rename_i hvalue
      exact .number (h ▸ hvalue)
    · rename_i hvalue
      exact .text hvalue (ofText?_eq_nan_iff.mpr h)
    · rename_i hvalue
      exact .bytes hvalue (ofBytes?_eq_nan_iff.mpr h)
    · exact h.elim

theorem parseSeconds_eq (hd : d.value ≠ .scalar .null) :
    parseSeconds name fallback d = do
      let x ← secondsOf name d
      if x ≤ 0.0 then throw (.notPositive name d.shown) else return x := by
  unfold parseSeconds
  split
  · rename_i hnull
    exact absurd hnull hd
  · rfl

/-- A value other than null is accepted if it stands for a positive double, and also if it stands
for the undefined one. -/
theorem parseSeconds_cases (name : String) (fallback : Float) (hd : d.value ≠ .scalar .null) :
    (d.IsUndefined ∧ parseSeconds name fallback d = .ok .nan) ∨
      ¬ d.IsUndefined ∧
        ((∃ x, parseSeconds name fallback d = .ok x ∧ d.StandsFor x ∧ 0.0 < x) ∨
          ∃ e, parseSeconds name fallback d = .error e ∧ Refusal name d e) := by
  rw [parseSeconds_eq hd, ← standsFor_nan_iff]
  cases hx : secondsOf name d with
  | error e =>
    refine .inr ⟨fun hnan => ?_, .inr ⟨e, rfl, refusal_of_secondsOf hx⟩⟩
    cases hnan.secondsOf_eq.symm.trans hx
  | ok x =>
    have hstands : d.StandsFor x := standsFor_of_secondsOf hx
    rw [ok_bind]
    by_cases hnan : x = .nan
    · subst hnan
      exact .inl ⟨hstands, if_neg not_nan_le⟩
    refine .inr ⟨fun h => hnan ?_, ?_⟩
    · exact Except.ok.inj (hx.symm.trans h.secondsOf_eq)
    by_cases hle : x ≤ 0.0
    · rw [if_pos hle]
      exact .inr ⟨_, rfl, .notPositive hstands hle⟩
    · rw [if_neg hle]
      exact .inl ⟨x, rfl, hstands, pos_iff.mpr ⟨hle, hnan⟩⟩

end Reading

section Resolution

variable {env : Environment} {required : Bool} {raw : RawInputs} {inputs : Inputs}

/-- What the text in effect for a duration makes of it. -/
def Lapse (input : Option Input) (x : Float) : Prop :=
  ∃ s, input = some (.text s) ∧ ofText? s.toList = some x ∧
    (NamesUndefined s.toList ∧ x = .nan ∨ ¬ NamesUndefined s.toList ∧ 0.0 < x)

theorem lapse_of_lasts {input : Option Input} {x : Float}
    (h : ∃ s, input = some (.text s) ∧ Item.Lasts s x) : Lapse input x := by
  obtain ⟨s, hinput, hread, hle⟩ := h
  refine ⟨s, hinput, hread, ?_⟩
  rw [← ofText?_eq_nan_iff, hread, Option.some_inj]
  by_cases hnan : x = .nan
  · exact .inl ⟨hnan, hnan⟩
  · exact .inr ⟨hnan, pos_iff.mpr ⟨hle, hnan⟩⟩

theorem lapse_of_resolve (h : resolve env required raw = .ok inputs) :
    Lapse (Item.effective env raw .pollInterval) inputs.pollInterval ∧
      Lapse (Item.effective env raw .waitLimit) inputs.waitLimit := by
  have hyields := (resolve_eq_ok_iff.mp h).2
  exact ⟨lapse_of_lasts (hyields .pollInterval), lapse_of_lasts (hyields .waitLimit)⟩

end Resolution

section Waiting

variable {handle : String} {interval limit : Float}

/-- With the undefined double for its limit, a wait is over when the stack has stopped changing and
not before. -/
theorem waitForStack_undefined (handle : String) (interval : Float) (w : World) :
    ∃ n, IsLeast {i | ¬ Pending (w.answers.reply .describeStacks i)} n ∧
      ((waitForStack handle interval .nan).run w).outcome =
        waitVerdict handle .nan (w.answers.reply .describeStacks n) := by
  classical
  have hsettles : {i | Settles interval .nan w.clock w i} =
      {i | ¬ Pending (w.answers.reply .describeStacks i)} :=
    Set.ext fun _ => or_iff_left not_nan_le
  have hleast := Nat.isLeast_find (exists_settles interval .nan w.clock w)
  exact ⟨_, hsettles ▸ hleast, (polls_of_isLeast le_rfl hleast).outcome⟩

/-- A stack that is still changing when the answer arrives after some time. -/
def World.busy (delay : Float) : World where
  answers
    | .describeStacks => [⟨delay, .ok [⟨none, some "CREATE_IN_PROGRESS", none⟩]⟩]
    | _ => []

/-- The clock of a wait can reach every positive limit. -/
theorem waitForStack_busy (handle : String) (interval : Float) (h : 0.0 < limit) :
    ((waitForStack handle interval limit).run (.busy limit)).outcome =
      .error (.stack (.timeout handle "CREATE_IN_PROGRESS" limit)) := by
  have hlimit : limit ≤ (World.busy limit).arrival interval 0 - (World.busy limit).clock := by
    change limit ≤ 0.0 + limit - 0.0
    rw [sub_positive_zero, zero_add_of_pos h]
    exact le_self (pos_iff.mp h).2
  have hmore : ((World.busy limit).answers .describeStacks).length ≤ 1 := le_rfl
  have hpolls : Polls ((pollStack handle interval limit 0.0 1).run (.busy limit)) handle interval
      limit (.busy limit) 0 := polls_zero hmore (.inr hlimit)
  have hrun : (waitForStack handle interval limit).run (.busy limit) =
      (pollStack handle interval limit 0.0 1).run (.busy limit) := by
    rw [waitForStack, Session.run_bind]
    rfl
  have hpending : (StackStatus.ofReported handle
      ⟨none, some "CREATE_IN_PROGRESS", none⟩).isTerminal = false :=
    isTerminal_eq_false_iff.mpr (by decide)
  rw [hrun, hpolls.outcome]
  exact if_neg (Bool.not_eq_true _ ▸ hpending)

end Waiting

/-- What is accepted for a number of seconds is positive, so that it can be reached, unless it is
the undefined double. This one compares with nothing, and a wait until then goes on for as long as
the stack changes. -/
theorem durations_positive_unless_undefined (env : Environment) (required : Bool) (raw : RawInputs)
    (name : String) (fallback : Float) (d : Data) :
    (d.value ≠ .scalar .null →
      (d.IsUndefined ∧ parseSeconds name fallback d = .ok .nan) ∨
        ¬ d.IsUndefined ∧
          ((∃ x, parseSeconds name fallback d = .ok x ∧ d.StandsFor x ∧ 0.0 < x) ∨
            ∃ e, parseSeconds name fallback d = .error e ∧ Refusal name d e)) ∧
    (∀ inputs, resolve env required raw = .ok inputs →
      Lapse (Item.effective env raw .pollInterval) inputs.pollInterval ∧
        Lapse (Item.effective env raw .waitLimit) inputs.waitLimit) ∧
    (∀ x : Float, 0.0 < x → x ≤ x ∧ ∀ handle interval,
      ((waitForStack handle interval x).run (.busy x)).outcome =
        .error (.stack (.timeout handle "CREATE_IN_PROGRESS" x))) ∧
    (∀ x : Float, ¬ Float.nan ≤ x ∧ ¬ x < Float.nan) ∧
    ∀ handle interval w, ∃ n, IsLeast {i | ¬ Pending (w.answers.reply .describeStacks i)} n ∧
      ((waitForStack handle interval .nan).run w).outcome =
        waitVerdict handle .nan (w.answers.reply .describeStacks n) :=
  ⟨parseSeconds_cases name fallback, fun _ => lapse_of_resolve,
    fun _ h => ⟨le_self (pos_iff.mp h).2, fun _ _ => waitForStack_busy _ _ h⟩,
    fun _ => ⟨not_nan_le, not_lt_nan⟩, waitForStack_undefined⟩

theorem undefined_limit_accepted :
    ∃ inputs,
      resolve (fun _ => none) false ⟨none, none, none, none, some "nan", none⟩ = .ok inputs ∧
      ¬ 0.0 < inputs.waitLimit ∧ ∀ elapsed, ¬ inputs.waitLimit ≤ elapsed := by
  have hinterval : Item.Lasts "3.0" 3.0 := ⟨rfl, nofun⟩
  have hlimit : Item.Lasts "nan" .nan :=
    ⟨ofText?_eq_nan_iff.mpr ⟨[], by simp, ['n', 'a', 'n'], by decide, by decide⟩, not_nan_le⟩
  refine ⟨⟨defaultConfig, none, none, 3.0, .nan, false⟩, resolve_eq_ok_iff.mpr ⟨nofun, ?_⟩,
    not_lt_nan, fun _ => not_nan_le⟩
  intro item
  cases item with
  | pollInterval => exact ⟨_, rfl, hinterval⟩
  | waitLimit => exact ⟨_, rfl, hlimit⟩
  | configPath | templatePath | profile | dryRun => rfl

end ClusterLaunch

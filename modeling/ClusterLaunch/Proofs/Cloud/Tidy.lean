import ClusterLaunch.Proofs.Cloud.Pages

/-! # Tidy replies

A field of a reply can be left out, hold nothing or hold the empty text. Tidying leaves out all
three alike. The names of key pairs are compared as they stand, so they stay untouched.
-/

namespace ClusterLaunch

/-- A field is left out when it holds no text. -/
def Field.tidy : Field → Field
  | given s => if s = "" then missing else given s
  | _ => missing

def Method.tidy : (m : Method) → m.Reply → m.Reply
  | describeVpcs, vpcs => vpcs.map fun v => ⟨filled v.id, filled v.block⟩
  | describeSubnets, page =>
    ⟨page.subnets.map fun s => ⟨s.id.tidy, filled s.block⟩, filled page.nextToken⟩
  | describeKeyPairs, names => names
  | listHostedZones, zones => zones.map fun z => ⟨filled z.id, filled z.name⟩
  | listRecordSets, page =>
    ⟨page.names.map filled, page.isTruncated, filled page.nextName, filled page.nextType,
      filled page.nextIdentifier⟩
  | createStack, id => filled id
  | describeStacks, reports =>
    reports.map fun r => ⟨filled r.id, filled r.status, filled r.reason⟩
  | describeStackEvents, page =>
    ⟨page.events.map fun e =>
      ⟨filled e.status, filled e.type, filled e.logicalId, filled e.reason⟩,
      filled page.nextToken⟩
  | validateTemplate, summary => ⟨summary.capabilities, filled summary.description⟩

def Answers.tidied (a : Answers) : Answers := fun m =>
  (a m).map fun answer => ⟨answer.delay, answer.result.map m.tidy⟩

@[simp] theorem filled_filled (s : Option String) : filled (filled s) = filled s := by
  unfold filled
  rw [Option.filter_filter]
  simp

@[simp] theorem filled_getD (s : Option String) : (filled s).getD "" = s.getD "" := by
  cases s with
  | none => rfl
  | some t =>
    by_cases h : t = ""
    · simp [h]
    · rw [filled_eq_some_iff.mpr ⟨rfl, h⟩]

theorem filled_eq_none_iff {s : Option String} : filled s = none ↔ s = none ∨ s = some "" := by
  rcases s with _ | t
  · simp
  · by_cases h : t = ""
    · simp [h]
    · simp [filled_eq_some_iff.mpr ⟨rfl, h⟩, h]

theorem filterMap_filled (fields : List (Option String)) :
    fields.filterMap filled = (fields.map fun field => field.getD "").filter (· ≠ "") := by
  induction fields with
  | nil => rfl
  | cons field fields ih =>
    rw [List.filterMap_cons, List.map_cons, List.filter_cons, ih]
    rcases field with _ | t
    · simp
    · by_cases h : t = ""
      · simp [h]
      · simp [filled_eq_some_iff.mpr ⟨rfl, h⟩, h]

theorem Answers.next_tidied (a : Answers) (m : Method) :
    a.tidied.next m = (a.next m).map m.tidy := by
  unfold next reply tidied
  rw [List.getElem?_map]
  cases (a m)[0]? <;> rfl

/-- Tidying the answers tidies the pages if it keeps where the listing ends. -/
theorem listing_tidied {m : Method} {goesOn : m.Reply → Bool}
    (hg : ∀ page, goesOn (m.tidy page) = goesOn page) (a : Answers) :
    listing m goesOn (a.tidied m) = (listing m goesOn (a m)).map (List.map m.tidy) := by
  unfold Answers.tidied
  induction a m with
  | nil => rfl
  | cons answer rest ih =>
    rw [List.map_cons, listing, listing]
    cases answer.result with
    | error e => rfl
    | ok page =>
      change (if goesOn (m.tidy page) = true then _ else _) =
        Except.map _ (if goesOn page = true then _ else _)
      rw [hg, ih]
      cases goesOn page <;> cases listing m goesOn rest <;> rfl

theorem cursors_tidied {κ : Type} {m : Method} {next : κ → m.Reply → Option κ}
    (hn : ∀ k page, next k (m.tidy page) = next k page) (a : Answers) (k : κ) :
    cursors next k (a.tidied m) = cursors next k (a m) := by
  unfold Answers.tidied
  induction a m generalizing k with
  | nil => rfl
  | cons answer rest ih =>
    rw [List.map_cons]
    cases h : answer.result with
    | error e => simp only [cursors, h, Except.map]
    | ok page =>
      simp only [cursors, h, Except.map, hn]
      cases next k page with
      | none => rfl
      | some k' => exact congrArg (k :: ·) (ih k')

end ClusterLaunch

import ClusterLaunch.Proofs.Cloud.Visits
import ClusterLaunch.Proofs.Preflight.Verdict

/-! # Where the listing of records goes on

Each page names the first record of the next one. The name and the identifier that are sent are
those of the page before, but the type is that of the latest page with a type, which can be an
earlier one.
-/

namespace ClusterLaunch

open Session

namespace RecordPage

/-- The listing of records goes on after a page that is cut off and names the next record. -/
def Continues (page : RecordPage) : Prop :=
  page.isTruncated = true ∧ ∃ name, page.nextName = some name ∧ name ≠ ""

theorem goesOn_iff (page : RecordPage) : page.goesOn = true ↔ page.Continues := by
  rw [goesOn, Bool.and_eq_true, Option.isSome_iff_exists]
  simp only [filled_eq_some_iff, Continues]

instance (page : RecordPage) : Decidable page.Continues := decidable_of_iff _ page.goesOn_iff

/-- The cursor that a page reports, without what is empty. -/
def cursor (page : RecordPage) : Option RecordCursor :=
  (filled page.nextName).map fun name => ⟨name, filled page.nextType, filled page.nextIdentifier⟩

def latestType (pages : List RecordPage) : Option String :=
  (pages.filterMap fun page => filled page.nextType).getLast?

theorem latestType_append (pages : List RecordPage) (page : RecordPage) :
    latestType (pages ++ [page]) = (filled page.nextType).or (latestType pages) := by
  rw [latestType, List.filterMap_append, List.getLast?_append, latestType]
  cases h : filled page.nextType with
  | none => simp [h]
  | some t => simp [h]

theorem latestType_eq_none_iff {pages : List RecordPage} :
    latestType pages = none ↔ ∀ page ∈ pages, filled page.nextType = none := by
  rw [latestType, List.getLast?_eq_none_iff, List.filterMap_eq_nil_iff]

/-- The cursor after some pages: the name and the identifier on the last of them, and the type on
the last that has one. -/
def carried (pages : List RecordPage) : Option RecordCursor :=
  pages.getLast?.bind fun page => (filled page.nextName).map fun name =>
    ⟨name, latestType pages, filled page.nextIdentifier⟩

theorem carried_append {pages : List RecordPage} {page : RecordPage} {name : String}
    (h : filled page.nextName = some name) : carried (pages ++ [page]) =
      some ⟨name, latestType (pages ++ [page]), filled page.nextIdentifier⟩ := by
  rw [carried, List.getLast?_concat, Option.bind_some, h, Option.map_some]

theorem type_carried {pages : List RecordPage} (h : ∀ page ∈ pages, page.Continues) :
    (carried pages).bind (·.type) = latestType pages := by
  obtain rfl | ⟨init, last, rfl⟩ := pages.eq_nil_or_concat
  · rfl
  · rw [List.concat_eq_append] at h ⊢
    obtain ⟨-, name, hname⟩ := h last List.mem_concat_self
    rw [carried_append (filled_eq_some_iff.mpr hname), Option.bind_some]

end RecordPage

namespace HostedZone

open RecordPage

theorem nextRecords_eq_some_iff {k c : Option RecordCursor} {page : RecordPage} :
    nextRecords k page = some c ↔ page.isTruncated = true ∧ ∃ name,
      filled page.nextName = some name ∧
        c = some ⟨name, (filled page.nextType).or (k.bind (·.type)), filled page.nextIdentifier⟩ := by
  unfold nextRecords
  cases page.isTruncated with
  | false => simp
  | true => simp [eq_comm]

/-- Pages that go on lead to the cursor that they carry, and other pages lead nowhere. -/
theorem foldlM_nextRecords {pages : List RecordPage} {c : Option RecordCursor} :
    pages.foldlM nextRecords none = some c ↔
      (∀ page ∈ pages, page.Continues) ∧ c = carried pages := by
  induction pages using List.reverseRecOn generalizing c with
  | nil => simp [carried, eq_comm]
  | append_singleton pages page ih =>
    simp only [List.foldlM_append, List.foldlM_cons, List.foldlM_nil, bind_pure,
      Option.bind_eq_bind, Option.bind_eq_some_iff, List.forall_mem_append,
      List.forall_mem_singleton]
    constructor
    · rintro ⟨k, hk, hc⟩
      obtain ⟨hpages, rfl⟩ := ih.mp hk
      obtain ⟨htruncated, name, hname, rfl⟩ := nextRecords_eq_some_iff.mp hc
      refine ⟨⟨hpages, htruncated, name, filled_eq_some_iff.mp hname⟩, ?_⟩
      rw [carried_append hname, latestType_append, type_carried hpages]
    · rintro ⟨⟨hpages, htruncated, name, hname⟩, rfl⟩
      have hfilled := filled_eq_some_iff.mpr hname
      refine ⟨carried pages, ih.mpr ⟨hpages, rfl⟩,
        nextRecords_eq_some_iff.mpr ⟨htruncated, name, hfilled, ?_⟩⟩
      rw [carried_append hfilled, latestType_append, type_carried hpages]

end HostedZone

/-- The first replies are some pages of records, all of which go on. -/
def Answers.Continued (a : Answers) (pages : List RecordPage) : Prop :=
  pages.map .ok <+: (a .listRecordSets).map Answer.result ∧ ∀ page ∈ pages, page.Continues

namespace HostedZone

open RecordPage

theorem getElem?_cursors_nextRecords {a : Answers} {i : ℕ} {c : Option RecordCursor} :
    (cursors nextRecords none (a .listRecordSets))[i]? = some c ↔
      ∃ pages, pages.length = i ∧ a.Continued pages ∧ c = carried pages := by
  rw [getElem?_cursors_eq_some_iff]
  simp only [foldlM_nextRecords, Answers.Continued, and_assoc]

/-- Each request for more records carries the cursor that the page before it reports. -/
def Resumes (id : String) (w : World) : Prop :=
  ∀ (pages : List RecordPage) (page : RecordPage), w.answers.Continued (pages ++ [page]) →
    ((listRecords id).run w).requests[pages.length + 1]? = some (.listRecordSets id page.cursor)

theorem getElem?_requests {id : String} {w : World} {pages : List RecordPage}
    (h : w.answers.Continued pages) :
    ((listRecords id).run w).requests[pages.length]? =
      some (.listRecordSets id (carried pages)) := by
  rw [requests_listRecords, List.getElem?_map,
    getElem?_cursors_nextRecords.mpr ⟨pages, rfl, h, rfl⟩]
  rfl

/-- What is carried is what the last page reports, unless it reports no type and a page before
does. -/
theorem carried_eq_cursor_iff {pages : List RecordPage} {page : RecordPage}
    (h : page.Continues) : carried (pages ++ [page]) = page.cursor ↔
      filled page.nextType ≠ none ∨ ∀ p ∈ pages, filled p.nextType = none := by
  obtain ⟨-, name, hname⟩ := h
  have hfilled := filled_eq_some_iff.mpr hname
  rw [carried_append hfilled, RecordPage.cursor, hfilled, latestType_append,
    ← latestType_eq_none_iff]
  cases filled page.nextType with
  | none => simp
  | some t => simp

/-- The first request for records has no cursor. Each later one follows a page that goes on, and
carries the name and the identifier that this page reports, with the type on the latest page so
far that reports one. So requests carry just what the page before reports as long as no page
without a type goes on after a page with one. -/
theorem records_resumed_iff (id : String) (w : World) :
    let requests := ((listRecords id).run w).requests
    requests[0]? = some (.listRecordSets id none) ∧
    (∀ (pages : List RecordPage) (page : RecordPage),
      w.answers.Continued (pages ++ [page]) → ∃ name, page.nextName = some name ∧
        requests[pages.length + 1]? = some (.listRecordSets id
          (some ⟨name, latestType (pages ++ [page]), filled page.nextIdentifier⟩))) ∧
    (∀ i r, requests[i + 1]? = some r →
      ∃ (pages : List RecordPage) (page : RecordPage), pages.length = i ∧
        w.answers.Continued (pages ++ [page])) ∧
    (Resumes id w ↔ ∀ (pages : List RecordPage) (page : RecordPage),
      w.answers.Continued (pages ++ [page]) →
        filled page.nextType ≠ none ∨ ∀ p ∈ pages, filled p.nextType = none) := by
  dsimp only
  have hrequest : ∀ (pages : List RecordPage) (page : RecordPage),
      w.answers.Continued (pages ++ [page]) →
        ((listRecords id).run w).requests[pages.length + 1]? =
          some (.listRecordSets id (carried (pages ++ [page]))) := by
    intro pages page h
    rw [← getElem?_requests h, List.length_append]
    rfl
  refine ⟨?_, ?_, ?_, ?_⟩
  · rw [requests_listRecords, List.getElem?_map, getElem?_cursors_zero]
    rfl
  · intro pages page h
    obtain ⟨-, name, hname⟩ := h.2 page List.mem_concat_self
    refine ⟨name, hname.1, ?_⟩
    rw [hrequest pages page h, carried_append (filled_eq_some_iff.mpr hname)]
  · intro i r h
    rw [requests_listRecords, List.getElem?_map, Option.map_eq_some_iff] at h
    obtain ⟨_, hc, -⟩ := h
    obtain ⟨pages, hlength, hpages, -⟩ := getElem?_cursors_nextRecords.mp hc
    obtain rfl | ⟨init, last, rfl⟩ := pages.eq_nil_or_concat
    · cases hlength
    · rw [List.concat_eq_append] at hlength hpages
      rw [List.length_append] at hlength
      exact ⟨init, last, Nat.succ.inj hlength, hpages⟩
  · refine forall_congr' fun pages => forall_congr' fun page => forall_congr' fun h => ?_
    rw [hrequest pages page h, ← carried_eq_cursor_iff (h.2 page List.mem_concat_self),
      Option.some.injEq, Request.listRecordSets.injEq, and_iff_right rfl]

end HostedZone

/-- Three pages of records. The first two go on, but only the first of them reports a type. -/
def RecordPage.halfTyped : List RecordPage :=
  [⟨[some "a.example.com."], true, some "b.example.com.", some "A", none⟩,
    ⟨[some "b.example.com."], true, some "c.example.com.", none, none⟩,
    ⟨[some "c.example.com."], false, none, none, none⟩]

def World.halfTyped : World where
  answers
    | .listHostedZones => [⟨0.0, .ok [⟨some "Z1", some "example.com."⟩]⟩]
    | .listRecordSets => RecordPage.halfTyped.map fun page => ⟨0.0, .ok page⟩
    | _ => []

/-- The type on the first page is sent with the name on the second one, which reports no type. -/
theorem records_resumed_with_stale_type :
    ((HostedZone.find "example.com").run World.halfTyped).requests =
      [.listHostedZones "example.com.", .listRecordSets "Z1" none,
        .listRecordSets "Z1" (some ⟨"b.example.com.", some "A", none⟩),
        .listRecordSets "Z1" (some ⟨"c.example.com.", some "A", none⟩)] ∧
      ¬ HostedZone.Resumes "Z1" World.halfTyped := by
  refine ⟨by decide +kernel, fun h => ?_⟩
  have hcontinued : World.halfTyped.answers.Continued (RecordPage.halfTyped.take 2) :=
    ⟨⟨[.ok RecordPage.halfTyped[2]], rfl⟩, by decide⟩
  cases h [RecordPage.halfTyped[0]] RecordPage.halfTyped[1] hcontinued

end ClusterLaunch

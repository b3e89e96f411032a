import ClusterLaunch.Cloud.Session
import ClusterLaunch.Config.Basic
import ClusterLaunch.Text.CodePoint
import ClusterLaunch.Text.Lowercase

/-! # The hosted zone

The zone is the first that is listed under exactly its name, and the name of the cluster must not be
among its records. Names are compared in canonical form, fully qualified and in lowercase; the empty
name stays empty.
-/

namespace ClusterLaunch.DomainName

def qualified (name : List Char) : List Char :=
  if name = [] ∨ name.getLast? = some '.' then name else name ++ ['.']

/-- The form in which names are compared. -/
def canonical (name : List Char) : List Char := Text.lower (qualified name)

def withDot (name : String) : String := String.ofList (qualified name.toList)

def canon (name : String) : String := String.ofList (canonical name.toList)

@[simp] theorem qualified_nil : qualified [] = [] := rfl

theorem qualified_eq_nil_iff {name : List Char} : qualified name = [] ↔ name = [] := by
  unfold qualified
  split
  · rfl
  · simp_all

theorem getLast?_qualified {name : List Char} (h : name ≠ []) :
    (qualified name).getLast? = some '.' := by
  unfold qualified
  split
  · simp_all
  · simp

@[simp] theorem qualified_qualified (name : List Char) :
    qualified (qualified name) = qualified name := by
  by_cases h : name = []
  · simp [h]
  · exact if_pos (Or.inr (getLast?_qualified h))

end ClusterLaunch.DomainName

namespace ClusterLaunch

open Session

/-- A zone with the canonical names of its records, in the order of the pages. -/
structure HostedZone where
  id : String
  name : String
  records : List String
  deriving DecidableEq, Repr

namespace HostedZone

def hasRecord (zone : HostedZone) (name : String) : Bool :=
  zone.records.contains (DomainName.canon name)

/-- The names of the records in the order of their code points, each once. -/
def recordNames (zone : HostedZone) : List String :=
  zone.records.eraseDups.mergeSort fun a b =>
    !(Text.codePoints b.toList).lex (Text.codePoints a.toList)

/-- The identifiers of the listed zones of a canonical name. -/
def matching (name : String) (zones : List ReportedZone) : List String :=
  zones.filterMap fun z =>
    if DomainName.canon (z.name.getD "") = name then filled z.id else none

def namesOf (page : RecordPage) : List String :=
  (page.names.filterMap filled).map DomainName.canon

/-- Where the listing goes on after a page. The type of the cursor before is kept if the page
names none. -/
def nextRecords (cursor : Option RecordCursor) (page : RecordPage) :
    Option (Option RecordCursor) :=
  if page.isTruncated then
    (filled page.nextName).map fun name =>
      some ⟨name, filled page.nextType <|> cursor.bind (·.type), filled page.nextIdentifier⟩
  else none

def listRecords (id : String) : Session (List String) := do
  let pages ← allPages .listRecordSets
    (fun cursor => (ask (.listRecordSets id cursor) : Session RecordPage)) nextRecords none
  return pages.flatMap namesOf

def find (zone : String) : Session HostedZone := do
  let name := DomainName.canon zone
  let zones : List ReportedZone ← ask (.listHostedZones name)
  match matching name zones with
  | [] => fail (.preflight (.zoneNotFound name))
  | id :: others =>
    if !others.isEmpty then
      log .warning .dns ("Found " ++ toString (others.length + 1) ++ " hosted zones named " ++
        name ++ "; using " ++ id)
    return ⟨id, name, ← listRecords id⟩

end HostedZone

def checkHostedZone (config : Config) : Session Unit := do
  let zone := config.text .hostedZone
  if zone = "" then
    log .debug .dns "No hostedZone configured; skipping DNS validation"
  else
    log .info .dns ("Validating hosted zone " ++ zone)
    let found ← HostedZone.find zone
    let name := config.text .externalDNSName
    if found.hasRecord name then
      fail (.preflight (.recordTaken (DomainName.withDot name) found.name))

end ClusterLaunch

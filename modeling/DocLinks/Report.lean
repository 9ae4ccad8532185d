import DocLinks.Check
import DocLinks.JsonValue

namespace DocLinks

/-- What a scan finds. -/
structure Outcome where
  filesScanned : Nat
  linksChecked : Nat
  broken : List Failure
deriving DecidableEq

namespace Outcome

def exitCode (o : Outcome) : Nat := if o.broken.isEmpty then 0 else 1

theorem exitCode_eq_zero {o : Outcome} : o.exitCode = 0 ↔ o.broken = [] := by
  rw [exitCode]
  split <;> simp_all

theorem exitCode_eq_one {o : Outcome} : o.exitCode = 1 ↔ o.broken ≠ [] := by
  rw [exitCode]
  split <;> simp_all

def banner : List Text :=
  ["----------------------------------------------".toList,
   "------------- Broken Link Report -------------".toList,
   "----------------------------------------------".toList]

/-- One line a broken link, under a heading. -/
def text (o : Outcome) : Text :=
  if o.broken.isEmpty then "No broken links found".toList
  else List.intercalate ['\n'] (banner ++ o.broken.map Failure.display)

end Outcome

def Failure.json (f : Failure) : JsonValue :=
  .object
    [("link".toList, .string f.link), ("file".toList, .string f.file), ("reason".toList, .string f.reason)]

namespace Outcome

def jsonValue (o : Outcome) : JsonValue :=
  .object [("files_scanned".toList, .number o.filesScanned), ("links_checked".toList, .number o.linksChecked),
    ("broken".toList, .array (o.broken.map Failure.json))]

def json (o : Outcome) : Text := o.jsonValue.write 0

/-- The report as it is printed. -/
def report (o : Outcome) (asJson : Bool) : Text := if asJson then o.json else o.text

end Outcome

end DocLinks

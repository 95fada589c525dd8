import BootSnapshot.Merge.Reconcile

set_option autoImplicit false

namespace BootSnapshot

inductive MergeError where
  | targetNotSequence (target : Target)
  | containerNotDictionary (key : String)
deriving DecidableEq

def MergeError.message : MergeError → String
  | .targetNotSequence target => "Target " ++ target.display ++ " exists but is not an array"
  | .containerNotDictionary key => "Section " ++ key ++ " exists but is not a dictionary"

namespace Merge

/-- The items of a list, none if the list or its section is missing. -/
def existingItems (document : Document) (target : Target) : Except MergeError (List Node) :=
  match document.get? target.sectionKey with
  | none => .ok []
  | some (.dictionary children) =>
    match children.get? target.listKey with
    | none => .ok []
    | some (.sequence items) => .ok items
    | some _ => .error (.targetNotSequence target)
  | some _ => .error (.containerNotDictionary target.sectionKey)

/-- The document with the items of a list replaced. A section that is no dictionary stays. -/
def commit (document : Document) (target : Target) (items : List Node) : Document :=
  match document.root.get? target.sectionKey with
  | none =>
    ⟨document.root.insert target.sectionKey
      (.dictionary (Dictionary.empty.insert target.listKey (.sequence items)))⟩
  | some (.dictionary children) =>
    ⟨document.root.insert target.sectionKey
      (.dictionary (children.insert target.listKey (.sequence items)))⟩
  | some _ => document

def ofCategory (discovered : List Component) (category : Category) : List Component :=
  discovered.filter (·.category = category)

/-- The lists reconciled, each with the items that the document holds. -/
def stage (document : Document) (discovered : List Component) (mode : Mode) :
    List Target → Except MergeError (List (Target × Outcome))
  | [] => .ok []
  | target :: rest =>
    match existingItems document target with
    | .error error => .error error
    | .ok existing =>
      let outcome := reconcile target existing (ofCategory discovered target.category) mode
      (stage document discovered mode rest).map ((target, outcome) :: ·)

def commitAll (document : Document) (staged : List (Target × Outcome)) : Document :=
  staged.foldl (fun document (target, outcome) => commit document target outcome.items) document

/-- Reconciles the given lists, in the order of their categories and each once. They are reconciled
first and written afterwards, so that a document that cannot take all of them is left as it was. A
section or a list that is missing is created. -/
def mergeTargets (document : Document) (discovered : List Component) (mode : Mode)
    (targets : List Target) : Except MergeError (Document × ChangeLog) :=
  match stage document discovered mode (Target.all.filter (· ∈ targets)) with
  | .error error => .error error
  | .ok staged =>
    .ok (commitAll document staged, staged.flatMap fun (_, outcome) => outcome.changes)

def merge (document : Document) (discovered : List Component) (mode : Mode) :
    Except MergeError (Document × ChangeLog) :=
  mergeTargets document discovered mode Target.all

end Merge
end BootSnapshot

/-!
# Issues of a document

Reading a document collects every issue, in the order of the fields and with
elements one after the other. An issue tells where it is by the keys and the
positions that lead to it.
-/
namespace Artboard.Schema

inductive Step where
  | key (name : String)
  | item (index : Nat)
deriving DecidableEq, Repr

inductive IssueKind where
  | missing
  | objectExpected
  | taggedObjectExpected
  | listExpected
  | tupleExpected
  | tooLong
  | stringExpected
  | halfCharacter
  | floatExpected
  | floatUnreadable
  | intExpected
  | intUnreadable
  | intOutOfRange
  | intFromFraction
  | finiteExpected
  | boolExpected
  | boolUnreadable
  | unknownMember
  | unknownLiteral
  | tagMissing
  | tagUnknown
  | belowMinimum
  | rejected (reason : String)
deriving DecidableEq, Repr

structure Issue where
  kind : IssueKind
  path : List Step
deriving DecidableEq, Repr

/-- A value read from a document, or the issues that were found. -/
inductive Checked (α : Type) where
  | valid (value : α)
  | invalid (issues : List Issue)

namespace Checked

variable {α β : Type}

def fail (kind : IssueKind) : Checked α := invalid [⟨kind, []⟩]

def map (f : α → β) : Checked α → Checked β
  | valid value => valid (f value)
  | invalid issues => invalid issues

/-- Applies a function, keeping the issues of both sides. -/
def both (f : Checked (α → β)) (argument : Checked α) : Checked β :=
  match f, argument with
  | valid f, valid value => valid (f value)
  | valid _, invalid issues => invalid issues
  | invalid issues, valid _ => invalid issues
  | invalid first, invalid second => invalid (first ++ second)

instance : Applicative Checked where
  pure := valid
  seq f argument := both f (argument ())

/-- A check that is made only on a value without issues. -/
def andThen (checked : Checked α) (check : α → Checked β) : Checked β :=
  match checked with
  | valid value => check value
  | invalid issues => invalid issues

/-- Places the issues below a step. -/
def below (step : Step) : Checked α → Checked α
  | valid value => valid value
  | invalid issues => invalid (issues.map fun issue => { issue with path := step :: issue.path })

/-- Reads the items of a list, numbered from `index`. -/
def eachFrom (read : α → Checked β) (index : Nat) : List α → Checked (List β)
  | [] => valid []
  | item :: rest =>
    both ((read item).below (.item index) |>.map List.cons) (eachFrom read (index + 1) rest)

def each (read : α → Checked β) (items : List α) : Checked (List β) := eachFrom read 0 items

end Checked

end Artboard.Schema

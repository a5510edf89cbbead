import GitPractice.Text.Blank
import GitPractice.Text.Case
import GitPractice.Topic.Catalog
import GitPractice.Topic.Similarity

/-!
# Finding topics

A topic is found by its id or command, by its category, or by a free text that
is like one of its own texts. Free text is compared without regard to case, and
results come best first: by the best likeness, then by the likeness to the id,
then in the order of the catalogue.
-/

namespace GitPractice
namespace Topic

/-- The likeness that is asked for when nothing else is said. -/
def defaultThreshold : Int := 60

/-- The form in which texts are compared. -/
def searchKey (s : String) : String := Text.lower (Text.strip s)

/-- The topic with this id or command. -/
def find? (name : String) : Option Topic :=
  catalog.find? fun t => t.id = searchKey name || t.name = searchKey name

/-- The categories in the order of the catalogue. -/
def categories : List String := (catalog.map (·.category)).eraseDups

def inCategory (category : String) : List Topic :=
  catalog.filter fun t => Text.lower t.category = Text.lower category

/-- The texts of a topic that are searched. -/
def searched (t : Topic) : List String := t.id :: t.name :: t.description :: t.useCases

structure Score where
  /-- The likeness to the most like of the texts. -/
  best : Nat
  /-- The likeness to the id. -/
  id : Nat
deriving DecidableEq, Inhabited

def score (t : Topic) (key : String) : Score where
  best := (t.searched.map fun s => Similarity.partialRatio key.toList (Text.lower s).toList).foldl max 0
  id := Similarity.partialRatio key.toList t.id.toList

/-- Whether a result goes before another; of equal ones the first stays first. -/
def Score.notAfter (a b : Score) : Bool := b.best < a.best || (a.best = b.best && b.id ≤ a.id)

/-- What is searched: a category, or everything. -/
def candidates (category : Option String) : List Topic :=
  match category with
  | none => catalog
  | some category => if category = "" then catalog else inCategory category

/-- The topics that are like the query, best first; all candidates for a query without a word. -/
def search (query : String) (category : Option String) (threshold : Int) : List Topic :=
  let key := searchKey query
  if key = "" then candidates category
  else
    let scored := (candidates category).map fun t => (t.score key, t)
    let matching := scored.filter fun m => threshold ≤ (m.1.best : Int)
    (matching.mergeSort fun a b => a.1.notAfter b.1).map (·.2)

end Topic
end GitPractice

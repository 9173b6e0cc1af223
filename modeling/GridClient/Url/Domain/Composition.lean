import GridClient.Url.Domain.CombiningClass
import GridClient.Url.Domain.Decomposition

/-!
Canonical composition: texts that look alike get one form. Everything is taken apart, marks are put
into canonical order, and each base takes in the marks that a single character with it exists for.
-/

namespace GridClient.Url.Domain

/-- The characters that stand for a base and a mark, each after the two. -/
def compositions : List ((Char × Char) × Char) :=
  decompositions.toList.flatMap fun run =>
    run.value.zipIdx.filterMap fun
      | ([base, mark], i) => some ((base, mark), Char.ofNat (run.first + i))
      | _ => none

/-- The character that stands for two. -/
def compose? (a b : Char) : Option Char := Hangul.compose? a b <|> compositions.lookup (a, b)

/-- Composes a base with what follows it. The marks that it cannot take in are held back, the
latest one first; a mark gets past them only if its class is greater. -/
def composeOnto (base : Char) (held : List Char) : List Char → List Char
  | [] => base :: held.reverse
  | c :: cs =>
    let isBlocked := held.head?.any fun mark => combiningClass c ≤ combiningClass mark
    match if isBlocked then none else compose? base c with
    | some composed => composeOnto composed held cs
    | none =>
      if combiningClass c = 0 then base :: held.reverse ++ composeOnto c [] cs
      else composeOnto base (c :: held) cs

/-- Composes a text that has been taken apart, from its first base on. -/
def composeMarks : List Char → List Char
  | [] => []
  | c :: cs => if combiningClass c = 0 then composeOnto c [] cs else c :: composeMarks cs

/-- The canonical form of a text. -/
def compose (cs : List Char) : List Char := composeMarks (orderMarks (cs.flatMap decompose))

end GridClient.Url.Domain

import UnitRouting.Text.Basic

/-! # Patterns

The syntax tree of a regular expression, and the least and greatest length of the texts it can
match. -/

namespace UnitRouting

/-- An option of matching, written as a letter in a group of flags. -/
inductive Flag where
  | ignoreCase
  | multiLine
  | dotAll
  | verbose
  | ascii
  | unicode
  /-- Repeats are refused. -/
  | template
  deriving DecidableEq

namespace Flag

def ofLetter? (c : CodePoint) : Option Flag :=
  if c = 'i' then some ignoreCase
  else if c = 'm' then some multiLine
  else if c = 's' then some dotAll
  else if c = 'x' then some verbose
  else if c = 'a' then some ascii
  else if c = 'u' then some unicode
  else if c = 't' then some template
  else none

/-- The flags that choose between the ASCII and the Unicode classes. -/
def isKind (flag : Flag) : Bool := flag == ascii || flag == unicode

end Flag

/-- The flags that are on. -/
abbrev Flags := List Flag

/-- The flags after a group has added some and removed some; a choice between ASCII and Unicode
    replaces the one before. -/
def Flags.change (flags added removed : Flags) : Flags :=
  let kept := if added.any Flag.isKind then flags.filter (!·.isKind) else flags
  (kept ++ added).filter (!removed.contains ·)

namespace Pattern

/-- A class of code points with an escape of its own. -/
inductive Category where
  | digit
  | space
  | word
  deriving DecidableEq

/-- A member of a bracketed set. -/
inductive Member where
  | single (c : CodePoint)
  | range (first last : CodePoint)
  | category (category : Category) (negated : Bool)
  deriving DecidableEq

/-- What matches exactly one code point. -/
inductive Atom where
  | single (c : CodePoint)
  /-- Every code point but one. -/
  | except (c : CodePoint)
  /-- Every code point, line feeds only if the dot takes all. -/
  | dot
  | set (negated : Bool) (members : List Member)
  deriving DecidableEq

/-- What matches the empty text at certain places. -/
inductive Anchor where
  /-- The start of the text, or of a line. -/
  | lineStart
  /-- The end of the text or before a line feed at its end, or the end of a line. -/
  | lineEnd
  | textStart
  | textEnd
  | wordBoundary (negated : Bool)
  deriving DecidableEq

/-- How a repeat tries its counts. -/
inductive Greed where
  /-- Most first. -/
  | greedy
  /-- Fewest first. -/
  | lazy
  /-- As many as possible, and no other count. -/
  | possessive
  deriving DecidableEq

/-- The least and the greatest length of a match. -/
structure Width where
  least : Nat
  most : Nat
  deriving DecidableEq

namespace Width

/-- Lengths are counted up to here. -/
def cap : Nat := 0x10000000000000000

def capped (w : Width) : Width := ⟨min w.least cap, min w.most cap⟩

def add (v w : Width) : Width := capped ⟨v.least + w.least, v.most + w.most⟩

def union (v w : Width) : Width := ⟨min v.least w.least, max v.most w.most⟩

/-- The width of a repeat. -/
def times (w : Width) (least : Nat) (most : Option Nat) : Width :=
  capped ⟨w.least * least, match most with
    | some n => w.most * n
    | none => if w.most = 0 then 0 else cap⟩

end Width

end Pattern

/-- A regular expression. -/
inductive Pattern where
  | empty
  | atom (atom : Pattern.Atom)
  | anchor (anchor : Pattern.Anchor)
  | seq (first second : Pattern)
  | alt (first second : Pattern)
  | loop (greed : Pattern.Greed) (least : Nat) (most : Option Nat) (body : Pattern)
  /-- A group, which may capture under a number and may change flags. -/
  | group (capture : Option Nat) (added removed : Flags) (body : Pattern)
  /-- What has matched is not taken back. -/
  | commit (body : Pattern)
  /-- The body has to match, or must not match, what follows or what precedes. -/
  | look (ahead negated : Bool) (body : Pattern)
  /-- The text that a group captured, whose width is known. -/
  | backreference (capture : Nat) (width : Pattern.Width)
  /-- One of two, by whether a group has captured. -/
  | conditional (capture : Nat) (yes no : Pattern)

namespace Pattern

/-- The sequence of some patterns. -/
def ofList : List Pattern → Pattern
  | [] => .empty
  | [p] => p
  | p :: rest => .seq p (ofList rest)

/-- The parts of a sequence. A group that neither captures nor changes flags is no part of its own. -/
def parts : Pattern → List Pattern
  | .empty => []
  | .seq p q => p.parts ++ q.parts
  | .group none [] [] body => body.parts
  | p => [p]

/-- The two are the same and have nothing inside. -/
def sameLeaf : Pattern → Pattern → Bool
  | .atom a, .atom b => a == b
  | .anchor a, .anchor b => a == b
  | .backreference m _, .backreference n _ => m == n
  | _, _ => false

/-- How many leaves a sequence and some others have in common at their fronts. -/
def commonLeaves : List Pattern → List (List Pattern) → Nat
  | [], _ => 0
  | leaf :: rest, others =>
    if others.all fun other => other.head?.any (sameLeaf leaf) then
      commonLeaves rest (others.map List.tail) + 1
    else 0

/-- The members of a set that matches what a sequence of one part does. -/
def members? : List Pattern → Option (List Member)
  | [.atom (.single c)] => some [.single c]
  | [.atom (.set false members)] => some members
  | _ => none

/-- One of some sequences, the first that matches; alternatives of one code point each are a set. -/
def ofBranches (branches : List (List Pattern)) : Pattern :=
  match branches.mapM members? with
  | some sets => .atom (.set false sets.flatten.eraseDups)
  | none =>
    match branches.reverse with
    | [] => .empty
    | last :: before => before.foldl (fun p branch => .alt (ofList branch) p) (ofList last)

/-- One of some patterns, with the leaves that all have in front stated once. -/
def ofAlternatives : List Pattern → Pattern
  | [] => .empty
  | [p] => p
  | p :: rest =>
    let others := rest.map parts
    let shared := commonLeaves p.parts others
    let branches := (p.parts :: others).map (·.drop shared)
    ofList (p.parts.take shared ++ [ofBranches branches])

/-- The least and greatest length of a match. -/
def width : Pattern → Width
  | .empty | .anchor _ | .look _ _ _ => ⟨0, 0⟩
  | .atom _ => ⟨1, 1⟩
  | .seq p q => p.width.add q.width
  | .alt p q => p.width.union q.width
  | .loop _ least most body => body.width.times least most
  | .group _ _ _ body | .commit body => body.width
  | .backreference _ width => width
  | .conditional _ yes no => yes.width.union no.width

/-- Everything that looks back has one length, below `2 ^ 32`. -/
def looksBackFixed : Pattern → Bool
  | .empty | .atom _ | .anchor _ | .backreference _ _ => true
  | .seq p q | .alt p q | .conditional _ p q => p.looksBackFixed && q.looksBackFixed
  | .loop _ _ _ body | .group _ _ _ body | .commit body => body.looksBackFixed
  | .look ahead _ body =>
    body.looksBackFixed
      && (ahead || (body.width.least == body.width.most && decide (body.width.least < 0x100000000)))

/-- Some part is repeated. -/
def hasLoop : Pattern → Bool
  | .empty | .atom _ | .anchor _ | .backreference _ _ => false
  | .seq p q | .alt p q | .conditional _ p q => p.hasLoop || q.hasLoop
  | .loop _ _ _ _ => true
  | .group _ _ _ body | .commit body | .look _ _ body => body.hasLoop

/-- Why a text is not a pattern. -/
inductive Error where
  /-- The text breaks the rules of patterns. -/
  | malformed
  /-- A repeat count is `2 ^ 32 - 1` or more. -/
  | countTooLarge
  /-- A repeat count has more digits than a numeral may have. -/
  | countTooLong
  /-- The ASCII and the Unicode classes are both asked for. -/
  | kindConflict
  deriving DecidableEq

end Pattern

end UnitRouting

import UnitRouting.Pattern.Basic
import UnitRouting.Pattern.Letter
import UnitRouting.Text.Blank
import UnitRouting.Text.Digit
import UnitRouting.Text.Word

/-! # Matching

A matcher gets a state and what has to match after it, and gives the final state of the first way
to match both. It is a recursion on the pattern; only loops count down a bound, which is more than
the number of rounds that they can make. -/

namespace UnitRouting.Pattern

/-- The lower case by which code points are compared if case is ignored. -/
def lower (flags : Flags) (c : CodePoint) : CodePoint :=
  if flags.contains .ascii then c.toAsciiLower else c.toLower

/-- The code points that are the same letter as `c`. -/
def variants (flags : Flags) (c : CodePoint) : List Nat :=
  if flags.contains .ascii then c.toAsciiLower.asciiVariants else c.toLower.variants

/-- The two code points are equal, or the same letter if case is ignored. -/
def same (flags : Flags) (expected c : CodePoint) : Bool :=
  if flags.contains .ignoreCase then (variants flags c).contains expected.val else expected == c

/-- The code point is in a category. -/
def Category.holds (flags : Flags) (c : CodePoint) : Category → Bool
  | .digit => if flags.contains .ascii then c.isDigit else c.isDecimal
  | .space =>
    if flags.contains .ascii then decide (9 ≤ c.val ∧ c.val ≤ 13) || c.val == 32 else c.isBlank
  | .word => if flags.contains .ascii then c.isAsciiWord else c.isWord

/-- The code point is in a range, by its upper case too. -/
def inRangeOrUpper (first last c : CodePoint) : Bool :=
  let within (n : Nat) := decide (first.val ≤ n) && decide (n ≤ last.val)
  within c.val || c.toUpper.head?.any (within ·.val)

/-- The code point belongs to a member of a set. If case is ignored, members of the first plane
    stand for all variants of a letter. A single member beyond that plane stands for lower-case
    code points as it is, and the part of a range beyond it for upper and lower case. -/
def Member.holds (flags : Flags) (c : CodePoint) : Member → Bool
  | .single expected =>
    if !flags.contains .ignoreCase then expected == c
    else if expected.val ≤ 0xFFFF then (variants flags c).contains expected.val
    else expected == lower flags c
  | .range first last =>
    if !flags.contains .ignoreCase then
      decide (first.val ≤ c.val) && decide (c.val ≤ last.val)
    else
      (variants flags c).any (fun n =>
        decide (first.val ≤ n) && decide (n ≤ last.val) && decide (n ≤ 0xFFFF))
      || (decide (0xFFFF < last.val) && inRangeOrUpper first last (lower flags c))
  | .category kind negated => kind.holds flags c != negated

/-- The code point is one that the atom matches. -/
def Atom.holds (flags : Flags) (c : CodePoint) : Atom → Bool
  | .single expected => same flags expected c
  | .except expected => !same flags expected c
  | .dot => flags.contains .dotAll || c != '\n'
  | .set negated members => members.any (·.holds flags c) != negated

/-- Where a match has got to: what lies before, nearest first, what lies ahead, and where groups
    have last begun and ended. -/
structure State where
  before : Text
  after : Text
  offset : Nat
  starts : List (Nat × Nat)
  ends : List (Nat × Nat)

namespace State

/-- The state at the start of a text. -/
def initial (t : Text) : State := ⟨[], t, 0, [], []⟩

/-- The mark of a group in a list of marks. -/
def mark? (group : Nat) (marks : List (Nat × Nat)) : Option Nat :=
  (marks.find? (·.1 == group)).map (·.2)

def setMark (group offset : Nat) (marks : List (Nat × Nat)) : List (Nat × Nat) :=
  (group, offset) :: marks.filter (·.1 != group)

/-- One code point further. -/
def next? (s : State) : Option (CodePoint × State) :=
  match s.after with
  | [] => none
  | c :: rest => some (c, { s with before := c :: s.before, after := rest, offset := s.offset + 1 })

/-- Back by some code points. -/
def back? (s : State) (count : Nat) : Option State :=
  if count ≤ s.offset then
    some { s with
      before := s.before.drop count
      after := (s.before.take count).reverse ++ s.after
      offset := s.offset - count }
  else none

def begin (group : Nat) (s : State) : State := { s with starts := setMark group s.offset s.starts }

def finish (group : Nat) (s : State) : State := { s with ends := setMark group s.offset s.ends }

/-- The text that a group has captured. -/
def captured? (subject : Text) (group : Nat) (s : State) : Option Text :=
  match mark? group s.starts, mark? group s.ends with
  | some first, some last =>
    if first ≤ last then some ((subject.drop first).take (last - first)) else none
  | _, _ => none

/-- Past a text that lies ahead, up to case if that is ignored. -/
def past? (flags : Flags) (s : State) : Text → Option State
  | [] => some s
  | expected :: rest =>
    match s.next? with
    | none => none
    | some (c, t) =>
      let equal :=
        if flags.contains .ignoreCase then lower flags expected == lower flags c
        else expected == c
      if equal then t.past? flags rest else none

end State

/-- The anchor holds here. -/
def Anchor.holds (flags : Flags) (s : State) : Anchor → Bool
  | .lineStart =>
    s.before.isEmpty || (flags.contains .multiLine && s.before.head? == some '\n')
  | .lineEnd =>
    s.after.isEmpty || s.after == [CodePoint.ofChar '\n']
      || (flags.contains .multiLine && s.after.head? == some '\n')
  | .textStart => s.before.isEmpty
  | .textEnd => s.after.isEmpty
  | .wordBoundary negated =>
    let isWord (c : Option CodePoint) : Bool := c.any (Category.word.holds flags ·)
    !(s.before.isEmpty && s.after.isEmpty)
      && (isWord s.before.head? != isWord s.after.head?) != negated

/-- What has to match after a state, and the final state of its first match. -/
abbrev Continuation := State → Option State

/-- A way to match from a state on. -/
abbrev Matcher := Continuation → State → Option State

/-- Repeats `body`, more rounds first. Once it has matched often enough, a round has to start at
    another place than the one before. -/
def loopGreedy (body : Matcher) (least : Nat) (most : Option Nat) (k : Continuation) :
    Nat → Nat → Option Nat → State → Option State
  | 0, _, _, s => k s
  | bound + 1, count, last, s =>
    if count < least then body (loopGreedy body least most k bound (count + 1) last) s
    else if most.all (count < ·) && last != some s.offset then
      match body (loopGreedy body least most k bound (count + 1) (some s.offset)) s with
      | some final => some final
      | none => k s
    else k s

/-- Repeats `body`, fewer rounds first. -/
def loopLazy (body : Matcher) (least : Nat) (most : Option Nat) (k : Continuation) :
    Nat → Nat → Option Nat → State → Option State
  | 0, _, _, s => k s
  | bound + 1, count, last, s =>
    if count < least then body (loopLazy body least most k bound (count + 1) last) s
    else match k s with
      | some final => some final
      | none =>
        if most.all (count < ·) && last != some s.offset then
          body (loopLazy body least most k bound (count + 1) (some s.offset)) s
        else none

/-- Repeats `body` as often as it matches, each round for good. -/
def loopPossessive (body : Matcher) (least : Nat) (most : Option Nat) :
    Nat → Nat → Option Nat → State → Option State
  | 0, _, _, s => some s
  | bound + 1, count, last, s =>
    if count < least then
      (body some s).bind (loopPossessive body least most bound (count + 1) last)
    else if most.all (count < ·) && last != some s.offset then
      match body some s with
      | some t => loopPossessive body least most bound (count + 1) (some s.offset) t
      | none => some s
    else some s

/-- More rounds than a loop can make from a state: the required ones, one for each code point
    ahead, and those that match nothing. -/
def loopBound (least : Nat) (s : State) : Nat := least + s.after.length + 3

/-- The matcher of a pattern. -/
def run (subject : Text) : Flags → Pattern → Matcher
  | _, .empty => fun k s => k s
  | flags, .atom a => fun k s =>
    match s.next? with
    | some (c, t) => if a.holds flags c then k t else none
    | none => none
  | flags, .anchor a => fun k s => if a.holds flags s then k s else none
  | flags, .seq p q => fun k => run subject flags p (run subject flags q k)
  | flags, .alt p q => fun k s =>
    match run subject flags p k s with
    | some final => some final
    | none => run subject flags q k s
  | flags, .loop greed least most body => fun k s =>
    match greed with
    | .greedy => loopGreedy (run subject flags body) least most k (loopBound least s) 0 none s
    | .lazy => loopLazy (run subject flags body) least most k (loopBound least s) 0 none s
    | .possessive =>
      (loopPossessive (run subject flags body) least most (loopBound least s) 0 none s).bind k
  | flags, .group capture added removed body => fun k s =>
    match capture with
    | none => run subject (flags.change added removed) body k s
    | some number =>
      run subject (flags.change added removed) body (fun t => k (t.finish number)) (s.begin number)
  | flags, .commit body => fun k s => (run subject flags body some s).bind k
  | flags, .look ahead negated body => fun k s =>
    match if ahead then some s else s.back? body.width.least with
    | none => if negated then k s else none
    | some start =>
      match run subject flags body some start with
      | some t => if negated then none else k { s with starts := t.starts, ends := t.ends }
      | none => if negated then k s else none
  | flags, .backreference number _ => fun k s =>
    match s.captured? subject number with
    | some text => (s.past? flags text).bind k
    | none => none
  | flags, .conditional number yes no => fun k s =>
    if (s.captured? subject number).isSome then run subject flags yes k s
    else run subject flags no k s

/-- The letter has another case. -/
def isCased (flags : Flags) (c : CodePoint) : Bool :=
  if flags.contains .ascii then c.isAsciiLetter else c.toLower != c || c.toUpper != [c]

/-- The member has letters with another case, or may have some beyond the first plane. -/
def Member.isCased (flags : Flags) : Member → Bool
  | .single c => Pattern.isCased flags c
  | .range first last =>
    decide (0xFFFF < last.val)
      || (List.range (last.val + 1 - first.val)).any fun n =>
        Pattern.isCased flags (.ofNat (first.val + n))
  | .category _ _ => false

/-- The set that a pattern begins with, inside groups if need be. If case is ignored, it has no
    letters with another case. -/
def leadingSet? : Flags → Pattern → Option (Bool × List Member)
  | flags, .atom (.set negated members) =>
    if flags.contains .ignoreCase && members.any (·.isCased flags) then none
    else some (negated, members)
  | flags, .group _ added removed body => leadingSet? (flags.change added removed) body
  | flags, .seq p q => if p.parts.isEmpty then leadingSet? flags q else leadingSet? flags p
  | _, _ => none

/-- A match may start before a code point. A pattern that begins with a set and matches no empty text
    has to find the set there, and the classes in the set are then those of the whole pattern, even if
    a group around the set chooses others. -/
def mayStart (flags : Flags) (p : Pattern) : CodePoint → Bool :=
  match leadingSet? flags p with
  | some (negated, members) =>
    let plain := flags.filter (· != .ignoreCase)
    if p.width.least = 0 then fun _ => true
    else fun c => (Atom.set negated members).holds plain c
  | none => fun _ => true

/-- Tries to match where a match may start, from a state on to the end. -/
def searchFrom (mayStart : CodePoint → Bool) (matchAt : State → Option State) :
    Text → Text → Nat → Bool
  | before, [], offset => (matchAt ⟨before, [], offset, [], []⟩).isSome
  | before, c :: after, offset =>
    (mayStart c && (matchAt ⟨before, c :: after, offset, [], []⟩).isSome)
      || searchFrom mayStart matchAt (c :: before) after (offset + 1)

/-- The pattern matches some part of the text. -/
def search (flags : Flags) (p : Pattern) (subject : Text) : Bool :=
  searchFrom (mayStart flags p) (run subject flags p some) [] subject 0

end UnitRouting.Pattern

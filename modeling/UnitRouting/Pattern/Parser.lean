import UnitRouting.Fault
import UnitRouting.Number.Numeral
import UnitRouting.Pattern.Basic
import UnitRouting.Text.Name
import UnitRouting.Text.Identifier

/-! # Reading patterns

A pattern text is first split into tokens, a code point or a backslash with the code point after
it. The parser then works on the tokens that are left and on what it knows of the groups so far.
Groups may be nested to any depth. -/

namespace UnitRouting.Pattern

/-- A code point, or an escape. -/
inductive Token where
  | plain (c : CodePoint)
  | escape (c : CodePoint)
  deriving DecidableEq

namespace Token

/-- The tokens of a text, and whether a backslash is left over at its end. -/
def ofText : Text → List Token × Bool
  | [] => ([], false)
  | [c] => if c = CodePoint.ofChar '\\' then ([], true) else ([.plain c], false)
  | c :: d :: rest =>
    if c = CodePoint.ofChar '\\' then
      let (tokens, dangling) := ofText rest
      (.escape d :: tokens, dangling)
    else
      let (tokens, dangling) := ofText (d :: rest)
      (.plain c :: tokens, dangling)

/-- The text of a token. -/
def toText : Token → Text
  | .plain c => [c]
  | .escape c => [CodePoint.ofChar '\\', c]

/-- The code point of a token that is no escape and belongs to a class. -/
def ofClass? (p : CodePoint → Bool) : Token → Option CodePoint
  | .plain c => if p c then some c else none
  | .escape _ => none

end Token

/-- What the parser knows: the tokens that are left, whether a backslash follows them, the widths of
    the groups so far (none for one that is still open), their names, the number of groups before
    the outermost look behind that is open, the groups that conditions have named, and the flags
    of the whole pattern. -/
structure ParseState where
  rest : List Token
  dangling : Bool
  widths : List (Option Width)
  names : List (Text × Nat)
  lookBehindFrom : Option Nat
  conditions : List Nat
  flags : Flags

/-- A step of the parser. -/
abbrev Parse := StateT ParseState (Except Error)

namespace Parse

def fail {α : Type} : Parse α := throw .malformed

/-- Goes on with other tokens; a backslash at the end of the pattern is noticed when nothing stands
    before it any more. -/
def goTo (rest : List Token) : Parse PUnit := do
  let s ← get
  if rest.isEmpty && s.dangling then fail
  set { s with rest := rest }

/-- The next token, which stays. -/
def peek : Parse (Option Token) := return (← get).rest.head?

/-- The next token, which is taken. -/
def next : Parse (Option Token) := do
  match (← get).rest with
  | [] => return none
  | token :: rest =>
    goTo rest
    return some token

/-- The next token is this code point. -/
def sees (c : Char) : Parse Bool := return (← peek) == some (.plain (CodePoint.ofChar c))

/-- Takes the next token if it is this code point. -/
def accept (c : Char) : Parse Bool := do
  if ← sees c then
    discard next
    return true
  else return false

/-- Takes tokens of a class, at most `limit`. -/
def takeWhile (limit : Nat) (p : CodePoint → Bool) : Parse Text := do
  let rest := (← get).rest
  let taken := (rest.take limit).takeWhile fun token => (token.ofClass? p).isSome
  if !taken.isEmpty then goTo (rest.drop taken.length)
  return taken.flatMap Token.toText

/-- Takes what stands before a code point that ends a name, and that code point; a name is not
    empty. -/
def upTo (c : Char) : Parse Text := do
  let rest := (← get).rest
  let stop : Token := .plain (CodePoint.ofChar c)
  let name := rest.takeWhile (· != stop)
  match rest.drop name.length with
  | [] => fail
  | _ :: after =>
    goTo after
    if name.isEmpty then fail else return name.flatMap Token.toText

/-- Opens a group and gives its number. -/
def openGroup (name : Option Text) : Parse Nat := do
  let s ← get
  let number := s.widths.length + 1
  match name with
  | none => set { s with widths := s.widths ++ [none] }
  | some name =>
    if s.names.any (·.1 == name) then fail
    set { s with widths := s.widths ++ [none], names := (name, number) :: s.names }
  return number

def closeGroup (number : Nat) (width : Width) : Parse PUnit :=
  modify fun s => { s with widths := s.widths.set (number - 1) (some width) }

/-- The number of a named group. -/
def numberOf (name : Text) : Parse Nat := do
  match (← get).names.find? (·.1 == name) with
  | some (_, number) => return number
  | none => fail

/-- The width of a group that is closed. -/
def closedWidth (number : Nat) : Parse Width := do
  match (← get).widths[number - 1]? with
  | some (some width) => return width
  | _ => fail

/-- Inside a look behind, only groups that were closed before it may be used. -/
def checkLookBehind (number : Nat) : Parse PUnit := do
  match (← get).lookBehindFrom with
  | none => return ()
  | some before =>
    discard (closedWidth number)
    if before < number then fail

end Parse

open Parse

def isOctal (c : CodePoint) : Bool := c.isBetween '0' '7'

def isHex (c : CodePoint) : Bool := c.hexDigit?.isSome

/-- The number that digits of a base write. -/
def codeValue (base : Nat) (digits : Text) : Nat :=
  Text.baseValue base (digits.filterMap CodePoint.hexDigit?)

/-- A code point written with a fixed count of hexadecimal digits. -/
def hexCode (count : Nat) : Parse CodePoint := do
  let digits ← takeWhile count isHex
  if digits.length != count then fail
  let value := codeValue 16 digits
  if h : value < 0x110000 then return ⟨value, h⟩ else fail

/-- A code point written by its name in braces. -/
def namedCode : Parse CodePoint := do
  if !(← accept '\x7b') then fail
  match CodePoint.ofName? (← upTo '\x7d') with
  | some c => return c
  | none => fail

/-- Escapes that stand for one code point, everywhere. -/
def controlEscape? (c : CodePoint) : Option CodePoint :=
  if c = 'a' then some (.ofNat 7)
  else if c = 'f' then some (.ofNat 12)
  else if c = 'n' then some (.ofNat 10)
  else if c = 'r' then some (.ofNat 13)
  else if c = 't' then some (.ofNat 9)
  else if c = 'v' then some (.ofNat 11)
  else if c = '\\' then some c
  else none

/-- Escapes that stand for a category: its name, and whether it is negated. -/
def category? (c : CodePoint) : Option (Category × Bool) :=
  if c = 'd' then some (.digit, false)
  else if c = 'D' then some (.digit, true)
  else if c = 's' then some (.space, false)
  else if c = 'S' then some (.space, true)
  else if c = 'w' then some (.word, false)
  else if c = 'W' then some (.word, true)
  else none

/-- Escapes with a code, which mean the same inside and outside of sets. -/
def codeEscape? (c : CodePoint) : Option (Parse CodePoint) :=
  if c = 'x' then some (hexCode 2)
  else if c = 'u' then some (hexCode 4)
  else if c = 'U' then some (hexCode 8)
  else if c = 'N' then some namedCode
  else none

/-- The escape of a code point that has no meaning of its own: itself, but for letters. -/
def plainEscape (c : CodePoint) : Parse CodePoint :=
  if c.isAsciiLetter then fail else return c

/-- An escape inside a set. -/
def memberEscape (c : CodePoint) : Parse Member := do
  if c = 'b' then return .single (.ofNat 8)
  match controlEscape? c, category? c, codeEscape? c with
  | some d, _, _ => return .single d
  | _, some (category, negated), _ => return .category category negated
  | _, _, some code => return .single (← code)
  | none, none, none =>
    if isOctal c then
      let value := codeValue 8 (c :: (← takeWhile 2 isOctal))
      if value > 0o377 then fail
      return .single (.ofNat value)
    else if c.isDigit then fail
    else return .single (← plainEscape c)

/-- A reference to a group by its number. -/
def reference (number : Nat) : Parse Pattern := do
  let width ← closedWidth number
  checkLookBehind number
  return .backreference number width

/-- An escape that begins with a digit other than zero: three octal digits are a code, else one or
    two digits are a reference. -/
def digitEscape (c : CodePoint) : Parse Pattern := do
  let second ← takeWhile 1 CodePoint.isDigit
  if !second.isEmpty && isOctal c && second.all isOctal then
    let third ← takeWhile 1 isOctal
    if !third.isEmpty then
      let value := codeValue 8 (c :: second ++ third)
      if value > 0o377 then fail
      return .atom (.single (.ofNat value))
  reference (codeValue 10 (c :: second))

/-- An escape outside of sets. -/
def escape (c : CodePoint) : Parse Pattern := do
  if c = 'A' then return .anchor .textStart
  if c = 'Z' then return .anchor .textEnd
  if c = 'b' then return .anchor (.wordBoundary false)
  if c = 'B' then return .anchor (.wordBoundary true)
  match category? c, controlEscape? c, codeEscape? c with
  | some (category, negated), _, _ => return .atom (.set false [.category category negated])
  | _, some d, _ => return .atom (.single d)
  | _, _, some code => return .atom (.single (← code))
  | none, none, none =>
    if c = '0' then
      return .atom (.single (.ofNat (codeValue 8 (c :: (← takeWhile 2 isOctal)))))
    else if c.isDigit then digitEscape c
    else return .atom (.single (← plainEscape c))

/-- The member that a token of a set begins. -/
def memberOf : Token → Parse Member
  | .plain c => return .single c
  | .escape c => memberEscape c

/-- The rest of a set, up to its closing bracket, which at the very start is a member. -/
def members : Nat → List Member → Parse (List Member)
  | 0, _ => fail
  | fuel + 1, found => do
    match ← next with
    | none => fail
    | some token =>
      if token = .plain (CodePoint.ofChar ']') && !found.isEmpty then return found
      let member ← memberOf token
      if ← accept '-' then
        match ← next with
        | none => fail
        | some last =>
          if last = .plain (CodePoint.ofChar ']') then
            return found ++ [member, .single (CodePoint.ofChar '-')]
          match member, ← memberOf last with
          | .single low, .single high =>
            if high.val < low.val then fail
            members fuel (found ++ [.range low high])
          | _, _ => fail
      else members fuel (found ++ [member])

/-- A set after its opening bracket; one of a single code point is that code point. -/
def set : Parse Atom := do
  let negated ← accept '^'
  let found ← members ((← get).rest.length + 1) []
  match found.eraseDups with
  | [.single c] => return if negated then .except c else .single c
  | all => return .set negated all

/-- A repeat count, if it is given. -/
def count (digits : Text) : Parse (Option Nat) := do
  if digits.isEmpty then return none
  if digits.length > numeralLimit then throw .countTooLong
  let n := codeValue 10 digits
  if n ≥ 0xFFFFFFFF then throw .countTooLarge
  return some n

/-- The counts of a repeat whose mark has been taken; `none` if a brace is not the start of a repeat
    but stands for itself. -/
def counts (mark : CodePoint) : Parse (Option (Nat × Option Nat)) := do
  if mark = '?' then return some (0, some 1)
  if mark = '*' then return some (0, none)
  if mark = '+' then return some (1, none)
  if ← sees '\x7d' then return none
  let here := (← get).rest
  let low ← takeWhile here.length CodePoint.isDigit
  let high ← if ← accept ',' then takeWhile here.length CodePoint.isDigit else pure low
  if ← accept '\x7d' then
    let least ← count low
    let most ← count high
    match most with
    | some n => if n < least.getD 0 then fail
    | none => pure ()
    return some (least.getD 0, most)
  else
    goTo here
    return none

/-- The repeat of an item: how it tries its counts is told by what follows. -/
def repeated (item : Pattern) (least : Nat) (most : Option Nat) : Parse Pattern := do
  match item with
  | .anchor _ | .loop .. => fail
  | _ =>
    if ← accept '?' then return .loop .lazy least most item
    if ← accept '+' then return .loop .possessive least most item
    return .loop .greedy least most item

/-- The flags that letters turn on, and the token that ends them. -/
def flagLetters (ends : List Char) : Nat → Token → Flags → Parse (Flags × Token)
  | 0, _, _ => fail
  | fuel + 1, .plain c, flags => do
    match Flag.ofLetter? c with
    | none => fail
    | some flag =>
      let flags := flag :: flags
      if flags.contains .ascii && flags.contains .unicode then fail
      match ← next with
      | none => fail
      | some stop =>
        if ends.any fun e => stop == .plain (CodePoint.ofChar e) then return (flags, stop)
        flagLetters ends fuel stop flags
  | _, .escape _, _ => fail

/-- The flags of a group whose first token is given: `none` if they are for the whole pattern, which
    has taken them over then, else what is turned on and off in the group. -/
def groupFlags (first : Token) : Parse (Option (Flags × Flags)) := do
  let fuel := (← get).rest.length + 1
  let minus : Token := .plain (CodePoint.ofChar '-')
  let (added, stop) ←
    if first = minus then pure (([] : Flags), first)
    else flagLetters [')', '-', ':'] fuel first []
  if stop = .plain (CodePoint.ofChar ')') then
    modify fun s => { s with flags := s.flags ++ added }
    return none
  if added.contains .template then fail
  if stop = minus then
    match ← next with
    | none => fail
    | some letter =>
      let (removed, _) ← flagLetters [':'] fuel letter []
      if removed.any (·.isKind) || removed.contains .template || added.any removed.contains then
        fail
      return some (added, removed)
  return some (added, [])

/-- The group that a condition names, by name or by number. -/
def conditionGroup : Parse Nat := do
  let name ← upTo ')'
  let number ←
    if name.isIdentifier then numberOf name
    else match Numeral.int? name with
      | some (.ofNat (n + 1)) => do
        if n + 1 ≥ 0x7FFFFFFF then fail
        modify fun s => { s with conditions := (n + 1) :: s.conditions }
        pure (n + 1)
      | _ => fail
  checkLookBehind number
  return number

/-- The name of a group up to a code point that ends it. -/
def groupName (stop : Char) : Parse Text := do
  let name ← upTo stop
  if name.isIdentifier then return name else fail

/-- Skips a comment up to the end of its line. -/
def skipLine : Parse PUnit := do
  let rest := (← get).rest.dropWhile (· != .plain (CodePoint.ofChar '\n'))
  goTo (rest.drop 1)

/-- White space that a verbose pattern skips. -/
def isLayout (c : CodePoint) : Bool := decide (9 ≤ c.val ∧ c.val ≤ 13) || c.val == 32

/-- Requires a closing parenthesis. -/
def closing : Parse PUnit := do
  if !(← accept ')') then fail

mutual

/-- Alternatives up to a closing parenthesis or the end; `found` holds those so far, last first. At
    the top level the flags of the whole pattern tell whether it is verbose. -/
def alternatives (top : Bool) : Nat → Bool → List Pattern → Parse Pattern
  | 0, _, _ => fail
  | fuel + 1, verbose, found => do
    let p ← items (top && found.isEmpty) fuel verbose []
    if ← accept '|' then
      let s ← get
      let verbose := if top then s.flags.contains .verbose else verbose
      alternatives top fuel verbose (p :: found)
    else return ofAlternatives (p :: found).reverse

/-- Items up to a bar, a closing parenthesis or the end; `found` holds those so far, last first. Flags
    for the whole pattern may stand before the first item of the first alternative. -/
def items (flagsAllowed : Bool) : Nat → Bool → List Pattern → Parse Pattern
  | 0, _, _ => fail
  | fuel + 1, verbose, found => do
    match ← peek with
    | none => return ofList found.reverse
    | some token =>
      if token = .plain (CodePoint.ofChar '|') || token = .plain (CodePoint.ofChar ')') then
        return ofList found.reverse
      discard next
      match token with
      | .escape c => items flagsAllowed fuel verbose ((← escape c) :: found)
      | .plain c =>
        if verbose && isLayout c then items flagsAllowed fuel verbose found
        else if verbose && c == '#' then
          skipLine
          items flagsAllowed fuel verbose found
        else if c = '[' then items flagsAllowed fuel verbose (.atom (← set) :: found)
        else if c = '*' ∨ c = '+' ∨ c = '?' ∨ c = '\x7b' then
          match ← counts c with
          | none => items flagsAllowed fuel verbose (.atom (.single c) :: found)
          | some (least, most) =>
            match found with
            | [] => fail
            | item :: before =>
              items flagsAllowed fuel verbose ((← repeated item least most) :: before)
        else if c = '.' then items flagsAllowed fuel verbose (.atom .dot :: found)
        else if c = '^' then items flagsAllowed fuel verbose (.anchor .lineStart :: found)
        else if c = '$' then items flagsAllowed fuel verbose (.anchor .lineEnd :: found)
        else if c = '(' then
          if ← accept '?' then
            match ← extension (flagsAllowed && found.isEmpty) fuel verbose with
            | some p => items flagsAllowed fuel verbose (p :: found)
            | none =>
              let s ← get
              let verbose :=
                if flagsAllowed && found.isEmpty then s.flags.contains .verbose else verbose
              items flagsAllowed fuel verbose found
          else
            let number ← openGroup none
            let p ← capture number fuel verbose
            items flagsAllowed fuel verbose (p :: found)
        else items flagsAllowed fuel verbose (.atom (.single c) :: found)

/-- The body of a capturing group that has been opened, and its closing parenthesis. -/
def capture (number : Nat) : Nat → Bool → Parse Pattern
  | 0, _ => fail
  | fuel + 1, verbose => do
    let body ← alternatives false fuel verbose []
    closing
    closeGroup number body.width
    return .group (some number) [] [] body

/-- What follows an opening parenthesis and a question mark; `none` for what matches nothing, a
    comment or flags for the whole pattern. -/
def extension (flagsAllowed : Bool) : Nat → Bool → Parse (Option Pattern)
  | 0, _ => fail
  | fuel + 1, verbose => do
    match ← next with
    | none => fail
    | some (.escape _) => fail
    | some (.plain c) =>
      if c = 'P' then
        if ← accept '<' then
          let number ← openGroup (some (← groupName '>'))
          return some (← capture number fuel verbose)
        else if ← accept '=' then
          let number ← numberOf (← groupName ')')
          return some (← reference number)
        else fail
      else if c = ':' then
        let body ← alternatives false fuel verbose []
        closing
        return some (.group none [] [] body)
      else if c = '#' then
        let rest := (← get).rest.dropWhile (· != .plain (CodePoint.ofChar ')'))
        if rest.isEmpty then fail
        goTo (rest.drop 1)
        return none
      else if c = '=' ∨ c = '!' then
        let body ← alternatives false fuel verbose []
        closing
        return some (.look true (c == '!') body)
      else if c = '<' then
        match ← next with
        | some (.plain d) =>
          if d = '=' ∨ d = '!' then
            let before := (← get).lookBehindFrom
            modify fun s => { s with lookBehindFrom := some (before.getD s.widths.length) }
            let body ← alternatives false fuel verbose []
            modify fun s => { s with lookBehindFrom := before }
            closing
            return some (.look false (d == '!') body)
          else fail
        | _ => fail
      else if c = '(' then
        let number ← conditionGroup
        let yes ← items false fuel verbose []
        let no ← if ← accept '|' then items false fuel verbose [] else pure .empty
        closing
        return some (.conditional number yes no)
      else if c = '>' then
        let body ← alternatives false fuel verbose []
        closing
        return some (.commit body)
      else
        match ← groupFlags (.plain c) with
        | none => if flagsAllowed then return none else fail
        | some (added, removed) =>
          let verbose := (verbose || added.contains .verbose) && !removed.contains .verbose
          let body ← alternatives false fuel verbose []
          closing
          return some (.group none added removed body)

end

/-- A pattern that can be searched for, and its flags. -/
structure Compiled where
  flags : Flags
  pattern : Pattern

/-- Reads a whole pattern. -/
def whole : Parse Compiled := do
  let rest := (← get).rest
  goTo rest
  let p ← alternatives true (4 * rest.length + 4) false []
  let s ← get
  if s.flags.contains .ascii && s.flags.contains .unicode then throw .kindConflict
  if !s.rest.isEmpty then fail
  if s.conditions.any (s.widths.length < ·) then fail
  if !p.looksBackFixed || (s.flags.contains .template && p.hasLoop) then fail
  return ⟨s.flags, p⟩

/-- Reads a pattern from its text. -/
def compile (t : Text) : Except Error Compiled :=
  let (tokens, dangling) := Token.ofText t
  match whole ⟨tokens, dangling, [], [], none, [], []⟩ with
  | .ok (compiled, _) => .ok compiled
  | .error e => .error e

end UnitRouting.Pattern

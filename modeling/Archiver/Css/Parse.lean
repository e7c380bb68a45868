import Archiver.Css.Token
import Archiver.Css.Selector

namespace Archiver

def isBlankToken (t : CssToken) : Bool := t == .blank

def skipBlanks (ts : List CssToken) : List CssToken := ts.dropWhile isBlankToken

def closingOf (c : Char) : Char := if c == '(' then ')' else if c == '[' then ']' else '}'

/-- The tokens of an open block and those after it; `awaited` lists the closing marks still to come,
and the end of all closes every block. -/
def takeBlock (awaited : List Char) : List CssToken → List CssToken × List CssToken
  | [] => ([], [])
  | t :: ts =>
    let keep := fun awaited => let (inside, rest) := takeBlock awaited ts; (t :: inside, rest)
    match t with
    | .opening c => keep (closingOf c :: awaited)
    | .function _ => keep (')' :: awaited)
    | .closing c =>
      match awaited with
      | [last] => if c == last then ([], ts) else keep [last]
      | last :: outer => if c == last then keep outer else keep (last :: outer)
      | [] => keep []
    | _ => keep awaited

/-- The runs between commas outside of blocks. -/
def splitCommas (awaited : List Char) : List CssToken → List (List CssToken)
  | [] => [[]]
  | t :: ts =>
    let add := fun awaited => match splitCommas awaited ts with
      | [] => [[t]]
      | run :: runs => (t :: run) :: runs
    match t with
    | .comma => if awaited.isEmpty then [] :: splitCommas [] ts else add awaited
    | .opening c => add (closingOf c :: awaited)
    | .function _ => add (')' :: awaited)
    | .closing c => match awaited with
      | last :: outer => add (if c == last then outer else last :: outer)
      | [] => add []
    | _ => add awaited

/-- True if a token can stand in no selector at all, not even in one that is passed over. -/
def hasBroken (ts : List CssToken) : Bool := ts.any (· == .broken)

def sameName (name : List Char) (wanted : String) : Bool := name.map asciiLower == wanted.toList

/-- The offset in a name of the form `n-3`. -/
def dashedOffset? (name : List Char) : Option Int :=
  match name with
  | n :: '-' :: digits =>
    if (n == 'n' || n == 'N') && !digits.isEmpty && digits.all isAsciiDigit then
      some (max (-Int.ofNat (decimalValue digits)) (-2147483648))
    else none
  | _ => none

/-- Reads the whole number without a sign that ends a place formula. -/
def unsignedOffset? (step sign : Int) (ts : List CssToken) : Option (Int × Int × List CssToken) :=
  match skipBlanks ts with
  | .number false (some b) [] :: rest => some (step, sign * b, rest)
  | _ => none

/-- Reads what may follow the `n` of a place formula. -/
def readPlaceOffset (step : Int) (ts : List CssToken) : Option (Int × Int × List CssToken) :=
  match skipBlanks ts with
  | .delim '+' :: rest => unsignedOffset? step 1 rest
  | .delim '-' :: rest => unsignedOffset? step (-1) rest
  | .number true (some b) [] :: rest => some (step, b, rest)
  | _ => some (step, 0, ts)

/-- Reads a place formula after its step, from the letter n on. -/
def readStepName (step : Int) (name : List Char) (ts : List CssToken) :
    Option (Int × Int × List CssToken) :=
  if sameName name "n" then readPlaceOffset step ts
  else if sameName name "n-" then unsignedOffset? step (-1) ts
  else (dashedOffset? name).map fun b => (step, b, ts)

/-- Reads a place formula such as `2n+1`, `odd` or `3`. -/
def readFormula (ts : List CssToken) : Option (Int × Int × List CssToken) :=
  match skipBlanks ts with
  | .number _ (some b) [] :: rest => some (0, b, rest)
  | .number _ (some step) unit :: rest => readStepName step unit rest
  | .ident name :: rest =>
    if sameName name "even" then some (2, 0, rest)
    else if sameName name "odd" then some (2, 1, rest)
    else
      match name with
      | '-' :: name => readStepName (-1) name rest
      | name => readStepName 1 name rest
  | .delim '+' :: .ident name :: rest => readStepName 1 name rest
  | _ => none

/-- Reads a place formula that fills a whole block. -/
def readPlaces (ofType fromEnd : Bool) (ts : List CssToken) : Option Simple :=
  match readFormula ts with
  | some (step, offset, rest) =>
    if (skipBlanks rest).isEmpty then some (.placed ⟨step, offset, ofType, fromEnd⟩) else none
  | none => none

/-- A name with what stands before its bar: nothing, an empty text or a star. -/
inductive Qualified where
  | plain (name : List Char)
  | unspaced (name : Option (List Char))
  | anySpace (name : Option (List Char))
deriving DecidableEq

def readAfterBar (inAttribute : Bool) (wrap : Option (List Char) → Qualified) (ts : List CssToken) :
    Option (Qualified × List CssToken) :=
  match ts with
  | .ident name :: rest => some (wrap (some name), rest)
  | .delim '*' :: rest => if inAttribute then none else some (wrap none, rest)
  | _ => none

/-- Reads a qualified name; the outer option fails, the inner one tells that none is there. -/
def readQualified (inAttribute : Bool) (ts : List CssToken) :
    Option (Option (Qualified × List CssToken)) :=
  match ts with
  | .ident _ :: .delim '|' :: _ => none
  | .ident name :: rest => some (some (.plain name, rest))
  | .delim '*' :: .delim '|' :: rest => (readAfterBar inAttribute .anySpace rest).map some
  | .delim '*' :: rest => if inAttribute then none else some (some (.anySpace none, rest))
  | .delim '|' :: rest => (readAfterBar inAttribute .unspaced rest).map some
  | _ => some none

def relationOf? : CssToken → Option Relation
  | .delim '=' => some .equal
  | .relation '~' => some .word
  | .relation '|' => some .dashed
  | .relation '^' => some .beginning
  | .relation '$' => some .ending
  | .relation '*' => some .inside
  | _ => none

def readCaseRule (ts : List CssToken) : Option CaseRule :=
  match skipBlanks ts with
  | [] => some .byName
  | .ident name :: rest =>
    if !(skipBlanks rest).isEmpty then none
    else if sameName name "i" then some .same
    else if sameName name "s" then some .differ
    else none
  | _ => none

/-- Reads the content of an attribute's brackets. -/
def readAttributeTest (ts : List CssToken) : Option AttributeTest :=
  match readQualified true (skipBlanks ts) with
  | some (some (name, rest)) =>
    let found : Option (Bool × List Char) := match name with
      | .plain name => some (false, name)
      | .unspaced name => name.map fun name => (false, name)
      | .anySpace name => name.map fun name => (true, name)
    match found, skipBlanks rest with
    | some (anySpace, name), [] => some ⟨anySpace, String.ofList name, none⟩
    | some (anySpace, name), mark :: rest =>
      match relationOf? mark, skipBlanks rest with
      | some relation, .ident value :: rest =>
        (readCaseRule rest).map fun rule =>
          ⟨anySpace, String.ofList name, some (relation, value, rule)⟩
      | some relation, .quoted value :: rest =>
        (readCaseRule rest).map fun rule =>
          ⟨anySpace, String.ofList name, some (relation, value, rule)⟩
      | _, _ => none
    | none, _ => none
  | _ => none

def firstPlace (ofType fromEnd : Bool) : Simple := .placed ⟨0, 1, ofType, fromEnd⟩

/-- The conditions named by a word after one colon. -/
def stateConditions? (name : List Char) : Option (List Simple) :=
  if sameName name "first-child" then some [firstPlace false false]
  else if sameName name "last-child" then some [firstPlace false true]
  else if sameName name "only-child" then some [firstPlace false false, firstPlace false true]
  else if sameName name "first-of-type" then some [firstPlace true false]
  else if sameName name "last-of-type" then some [firstPlace true true]
  else if sameName name "only-of-type" then some [firstPlace true false, firstPlace true true]
  else if sameName name "root" || sameName name "scope" then some [.root]
  else if sameName name "empty" then some [.empty]
  else none

def combinatorOf? : CssToken → Option Combinator
  | .delim '>' => some .child
  | .delim '+' => some .next
  | .delim '~' => some .later
  | _ => none

/-- Reads what leads to the next compound: none at the end, blanks being a combinator themselves. -/
def readCombinator (ts : List CssToken) : Option (Combinator × List CssToken) :=
  match skipBlanks ts with
  | [] => none
  | t :: rest =>
    match combinatorOf? t with
    | some c => some (c, rest)
    | none => if ts.head? == some .blank then some (.descendant, t :: rest) else none

def Compound.ofList : List Simple → Compound
  | [] => .nil
  | s :: rest => .cons s (ofList rest)

def Selectors.ofList : List Complex → Selectors
  | [] => .nil
  | c :: rest => .cons c (ofList rest)

def typeConditions : Qualified → List Simple
  | .plain name => [.named (String.ofList name)]
  | .unspaced _ => [.never]
  | .anySpace (some name) => [.named (String.ofList name)]
  | .anySpace none => []

mutual

/-- Reads the conditions that follow a type; a text that is no condition ends them. -/
def readSimples : Nat → List CssToken → Option (List Simple × List CssToken)
  | 0, _ => none
  | fuel + 1, ts =>
    match ts with
    | .hash name true :: rest => readMore fuel [.identified name] rest
    | .delim '.' :: .ident name :: rest => readMore fuel [.classed name] rest
    | .delim '.' :: _ => none
    | .opening '[' :: rest =>
      let (inside, rest) := takeBlock [']'] rest
      match readAttributeTest inside with
      | some t => readMore fuel [.attributed t] rest
      | none => none
    | .colon :: .ident name :: rest =>
      match stateConditions? name with
      | some conditions => readMore fuel conditions rest
      | none => none
    | .colon :: .function name :: rest =>
      let (inside, rest) := takeBlock [')'] rest
      match readFunction fuel name inside with
      | some condition => readMore fuel [condition] rest
      | none => none
    | .colon :: _ => none
    | ts => some ([], ts)

def readMore : Nat → List Simple → List CssToken → Option (List Simple × List CssToken)
  | 0, _, _ => none
  | fuel + 1, found, ts =>
    match readSimples fuel ts with
    | some (more, rest) => some (found ++ more, rest)
    | none => none

/-- Reads a condition with arguments after one colon. -/
def readFunction : Nat → List Char → List CssToken → Option Simple
  | 0, _, _ => none
  | fuel + 1, name, inside =>
    if sameName name "nth-child" then readPlaces false false inside
    else if sameName name "nth-last-child" then readPlaces false true inside
    else if sameName name "nth-of-type" then readPlaces true false inside
    else if sameName name "nth-last-of-type" then readPlaces true true inside
    else if sameName name "not" then
      (readList fuel (splitCommas [] inside)).map fun list => .noneOf (.ofList list)
    else if sameName name "is" || sameName name "where" then
      if hasBroken inside then none
      else some (.anyOf (.ofList (readForgiving fuel (splitCommas [] inside))))
    else none

/-- Reads every alternative. -/
def readList : Nat → List (List CssToken) → Option (List Complex)
  | 0, _ => none
  | _ + 1, [] => some []
  | fuel + 1, run :: runs =>
    match readComplex fuel run, readList fuel runs with
    | some c, some rest => some (c :: rest)
    | _, _ => none

/-- Reads the alternatives that can be read. -/
def readForgiving : Nat → List (List CssToken) → List Complex
  | 0, _ => []
  | _ + 1, [] => []
  | fuel + 1, run :: runs =>
    match readComplex fuel run with
    | some c => c :: readForgiving fuel runs
    | none => readForgiving fuel runs

/-- Reads one alternative to its end. -/
def readComplex : Nat → List CssToken → Option Complex
  | 0, _ => none
  | fuel + 1, ts =>
    match readCompound fuel ts with
    | some (c, rest) => readChain fuel (.single c) rest
    | none => none

def readChain : Nat → Complex → List CssToken → Option Complex
  | 0, _, _ => none
  | fuel + 1, left, ts =>
    match readCombinator ts with
    | none => if (skipBlanks ts).isEmpty then some left else none
    | some (link, rest) =>
      match readCompound fuel rest with
      | some (c, rest) => readChain fuel (.chain left link c) rest
      | none => none

/-- Reads the conditions on one element; there must be at least one. -/
def readCompound : Nat → List CssToken → Option (Compound × List CssToken)
  | 0, _ => none
  | fuel + 1, ts =>
    let ts := skipBlanks ts
    match readQualified false ts with
    | none => none
    | some (some (name, rest)) =>
      match readSimples fuel rest with
      | some (more, rest) => some (.ofList (typeConditions name ++ more), rest)
      | none => none
    | some none =>
      match readSimples fuel ts with
      | some (first :: more, rest) => some (.ofList (first :: more), rest)
      | _ => none

end

/-- Reads a selector list. -/
def Selectors.parse? (s : List Char) : Option Selectors :=
  let tokens := cssTokens s
  (readList (8 * (tokens.length + 4)) (splitCommas [] tokens)).map Selectors.ofList

end Archiver

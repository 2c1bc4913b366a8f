import MockApi.Text.Split
import MockApi.Yaml.Flow

/-!
YAML documents by their lines. What belongs to a mapping or a list is told by the indentation; a
list may stand as deep as the name in front of it. The fuel of the readers is the number of
characters, as every value takes at least one or ends the text.
-/
namespace MockApi.Yaml

abbrev Lines := List (List Char)

def indent (line : List Char) : Nat := (line.takeWhile (· == ' ')).length

def isBlankLine (line : List Char) : Bool := line.all isBlank

def isSkipped (line : List Char) : Bool :=
  match line.dropWhile isBlank with
  | [] => true
  | c :: _ => c == '#'

def content (lines : Lines) : Lines := lines.dropWhile isSkipped

def isDash : List Char → Bool
  | '-' :: rest => endsWord rest
  | _ => false

/-- A plain text on one line up to a comment or a colon that ends a name, and what is behind it. -/
def plainOnLine : List Char → List Char × List Char
  | [] => ([], [])
  | c :: rest =>
      if endsName false (c :: rest) then ([], c :: rest)
      else if isBlank c && rest.head? == some '#' then ([], c :: rest)
      else
        let (text, behind) := plainOnLine rest
        (c :: text, behind)

def trimEnd (text : List Char) : List Char := (text.reverse.dropWhile isBlank).reverse

def memberName? (line : List Char) : Option (Scalar × List Char) :=
  match line with
  | '"' :: _ | '\'' :: _ =>
      match readQuoted line with
      | some (.scalar name, rest) =>
          match rest.dropWhile isBlank with
          | ':' :: behind => if endsWord behind then some (name, behind) else none
          | _ => none
      | _ => none
  | _ =>
      if ¬ startsPlain line then none
      else match plainOnLine line with
        | (name, ':' :: behind) => some (⟨String.ofList (trimEnd name), true⟩, behind)
        | _ => none

/-! ## Block scalars -/

inductive Chomp where
  | strip | clip | keep
  deriving DecidableEq, Repr

/-- How a block scalar is announced: its chomping and its indentation, if that is given. -/
structure BlockHeader where
  chomp : Chomp
  depth : Option Nat

def blockHeader? : (header : BlockHeader) → List Char → Option BlockHeader
  | header, [] => some header
  | header, '-' :: rest => blockHeader? { header with chomp := .strip } rest
  | header, '+' :: rest => blockHeader? { header with chomp := .keep } rest
  | header, c :: rest =>
      if isBlank c then (if isSkipped rest then some header else none)
      else if '1' ≤ c ∧ c ≤ '9' then
        blockHeader? { header with depth := some (Text.digitValue c) } rest
      else none

/-- The indentation of a block: that of its first line, and of the spaces in front of it. -/
def blockDepth (least : Nat) (lines : Lines) : Nat :=
  let front := lines.takeWhile (·.all (· == ' '))
  let first := ((lines.drop front.length).head?.map indent).getD 0
  (front.map List.length).foldl max (max first (max least 1))

def blockLines (depth : Nat) (lines : Lines) : Lines :=
  (lines.takeWhile fun line =>
    decide (depth ≤ indent line) || (line.all (· == ' '))).map (·.drop depth)

def isRaised (line : List Char) : Bool := (line.head?.map isBlank).getD false

/-- Joins lines with the breaks between them; a single break between two lines that are not raised
becomes a space. `breaks` counts those behind `previous`. -/
def foldLines (previous : Option (List Char)) (breaks : Nat) : Lines → List Char
  | [] => []
  | [] :: rest => foldLines previous (breaks + 1) rest
  | line :: rest =>
      let between := match previous with
        | none => List.replicate breaks '\n'
        | some last =>
            if isRaised last || isRaised line then List.replicate (breaks + 1) '\n'
            else if breaks = 0 then [' '] else List.replicate breaks '\n'
      between ++ line ++ foldLines (some line) 0 rest

def joinLines (lines : Lines) : List Char := ['\n'].intercalate lines

def readBlock (isFolded : Bool) (least : Nat) (header : List Char) (lines : Lines) :
    Option (Yaml × Lines) := do
  let header ← blockHeader? ⟨.clip, none⟩ header
  let depth := match header.depth with
    | some more => least - 1 + more
    | none => blockDepth least lines
  let all := blockLines depth lines
  let rest := lines.drop all.length
  let body := (all.reverse.dropWhile (·.isEmpty)).reverse
  let behind := all.length - body.length
  let breaks := if rest = [] then behind else behind + 1
  let text := if isFolded then foldLines none 0 body else joinLines body
  let ending := match header.chomp with
    | .strip => 0
    | .clip => if body = [] then 0 else min breaks 1
    | .keep => if body = [] then breaks - 1 else breaks
  return (quoted (text ++ List.replicate ending '\n'), rest)

/-! ## Values -/

def plainLines (least : Nat) (breaks : Nat) : Lines → Option (List Char × Lines)
  | [] => some ([], [])
  | line :: rest =>
      if isBlankLine line then do
        let (text, behind) ← plainLines least (breaks + 1) rest
        return (text, if text = [] then line :: rest else behind)
      else if isSkipped line || indent line < least then some ([], line :: rest)
      else
        let (text, behind) := plainOnLine (line.dropWhile isBlank)
        let space := if breaks = 0 then [' '] else List.replicate breaks '\n'
        match behind with
        | [] => do
            let (more, rest) ← plainLines least 0 rest
            return (space ++ trimEnd text ++ more, rest)
        | ':' :: _ => none
        | _ => some (space ++ trimEnd text, rest)

def readPlain (least : Nat) (line : List Char) (lines : Lines) : Option (Yaml × Lines) :=
  if ¬ startsPlain line then none
  else match plainOnLine line with
    | (text, []) => do
        let (more, rest) ← plainLines least 0 lines
        return (plain (trimEnd text ++ more), rest)
    | (_, ':' :: _) => none
    | (text, _) => some (plain (trimEnd text), lines)

def readFlowFrom (text : List Char) : Option (Yaml × List Char) := readFlow (text.length + 1) text

/-- A value in quotes, brackets or braces, which ends its line. Where it does not end on the line
that it starts on, it goes on over the lines below. -/
def readFlowValue (line : List Char) (lines : Lines) : Option (Yaml × Lines) := do
  match readFlowFrom line with
  | some (value, rest) => if isSkipped rest then some (value, lines) else none
  | none =>
      let (value, rest) ← readFlowFrom (joinLines (line :: lines))
      match Text.splitAt '\n' rest with
      | [] => return (value, [])
      | behind :: lines => if isSkipped behind then some (value, lines) else none

/-- A value that starts in the middle of a line. -/
def readInline (least : Nat) (line : List Char) (lines : Lines) : Option (Yaml × Lines) :=
  match line with
  | '|' :: header => readBlock false least header lines
  | '>' :: header => readBlock true least header lines
  | '"' :: _ | '\'' :: _ | '[' :: _ | '\x7b' :: _ => readFlowValue line lines
  | _ => readPlain least line lines

mutual

/-- A value on lines that are indented at least so far; no such line is an absent value. -/
def readNode : Nat → (least : Nat) → Lines → Option (Yaml × Lines)
  | 0, _, _ => none
  | fuel + 1, least, lines =>
      match content lines with
      | [] => some (absent, [])
      | line :: rest =>
          let depth := indent line
          let text := line.drop depth
          if depth < least then some (absent, line :: rest)
          else if isDash text then
            (readItems fuel depth (line :: rest)).map fun (items, rest) => (.seq items, rest)
          else if (memberName? text).isSome then
            (readMembers fuel depth (line :: rest)).map fun (members, rest) => (.map members, rest)
          else readInline least text rest

/-- The items of a list at some depth. An item is read as if a space stood in the place of its
dash. -/
def readItems : Nat → (depth : Nat) → Lines → Option (List Yaml × Lines)
  | 0, _, _ => none
  | fuel + 1, depth, lines =>
      match content lines with
      | [] => some ([], [])
      | line :: rest =>
          let text := line.drop (indent line)
          if indent line < depth then some ([], line :: rest)
          else if depth < indent line then none
          else if ¬ isDash text then some ([], line :: rest)
          else do
            let item := List.replicate (depth + 1) ' ' ++ text.drop 1
            let (value, rest) ← readNode fuel (depth + 1) (item :: rest)
            let (items, rest) ← readItems fuel depth rest
            return (value :: items, rest)

def readMembers : Nat → (depth : Nat) → Lines → Option (List (Scalar × Yaml) × Lines)
  | 0, _, _ => none
  | fuel + 1, depth, lines =>
      match content lines with
      | [] => some ([], [])
      | line :: rest =>
          if indent line < depth then some ([], line :: rest)
          else if depth < indent line then none
          else do
            let (name, behind) ← memberName? (line.drop depth)
            let (value, rest) ← readMemberValue fuel depth (behind.dropWhile isBlank) rest
            let (members, rest) ← readMembers fuel depth rest
            return ((name, value) :: members, rest)

def readMemberValue : Nat → (depth : Nat) → List Char → Lines → Option (Yaml × Lines)
  | 0, _, _, _ => none
  | fuel + 1, depth, text, lines =>
      if ¬ isSkipped text then readInline (depth + 1) text lines
      else match content lines with
        | [] => some (absent, [])
        | line :: rest =>
            if indent line = depth ∧ isDash (line.drop depth) then
              (readItems fuel depth (line :: rest)).map fun (items, rest) => (.seq items, rest)
            else readNode fuel (depth + 1) (line :: rest)

end

/-! ## Documents -/

/-- A line of three such characters that marks where a document starts or ends. -/
def isMarker (c : Char) (line : List Char) : Bool :=
  line.take 3 == [c, c, c] && endsWord (line.drop 3)

def documentLines? (lines : Lines) : Option Lines :=
  let lines := match content lines with
    | [] => []
    | line :: rest => if isMarker '-' line then ([' ', ' ', ' '] ++ line.drop 3) :: rest
      else line :: rest
  let body := lines.takeWhile fun line => !isMarker '-' line && !isMarker '.' line
  match lines.drop body.length with
  | [] => some body
  | marker :: rest => if isMarker '.' marker && rest.all isSkipped then some body else none

def splitLines (text : List Char) : Lines :=
  (Text.splitAt '\n' text).map fun line =>
    if line.getLast? = some '\r' then line.dropLast else line

def isEmpty (text : String) : Bool := (splitLines text.toList).all isSkipped

def parse? (text : String) : Option Yaml := do
  let chars := text.toList.dropWhile (· == '\uFEFF')
  let lines ← documentLines? (splitLines chars)
  let (value, rest) ← readNode (2 * chars.length + 2) 0 lines
  if rest.all isSkipped then some value else none

end MockApi.Yaml

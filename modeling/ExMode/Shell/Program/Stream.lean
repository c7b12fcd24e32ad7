import ExMode.Shell.Program.Layout
import ExMode.Text.Blank

/-!
# ExMode.Shell.Program.Stream

The programs that turn one stream into another: they order, cut, count, sample
and replace.
-/

namespace ExMode.Shell.Program

open Utf8 (Bytes)

/-- The files one after the other. -/
def cat : Program := fun args input d => filtering "cat" (splitOptions args).2 input d id

/-- The number at the front of a line, as far as there is one. -/
def leadingNumber (l : Bytes) : Int :=
  integerOf (Text.trimLeft (Utf8.decodeLossy l))

/-- A byte as the character of its number, which has the same place in the order. -/
def byteChar (b : UInt8) : Char := Char.ofNat b.toNat

/-- Whether one line may stand before another. -/
def inOrder (numeric : Bool) (a b : Bytes) : Bool :=
  let plain := Text.atMost (a.map byteChar) (b.map byteChar)
  if numeric then
    if leadingNumber a < leadingNumber b then true
    else if leadingNumber b < leadingNumber a then false
    else plain
  else plain

/-- The file that `-o` names, and the other arguments. -/
def outputFile : List Text → Option Text × List Text
  | ['-', 'o'] :: f :: r => (some f, (outputFile r).2)
  | a :: r => ((outputFile r).1, a :: (outputFile r).2)
  | [] => (none, [])

/-- The lines in order. -/
def sort : Program := fun args input d =>
  let (target, args) := outputFile args
  let (options, files) := splitOptions args
  let sources := sourcesOf files input d
  let (errors, code) := complaints "sort" (sources.filter fun x => x.2.toOption.isNone).head?.toList
  if code ≠ 0 then ⟨code, [], errors, d, 0, true⟩
  else
    let sorted := (linesOf (readable sources)).mergeSort (inOrder (hasOption 'n' options))
    let sorted := if hasOption 'u' options then sorted.eraseDups else sorted
    let sorted := if hasOption 'r' options then sorted.reverse else sorted
    let ran := match target with
      | some f => storing ("sort: open failed: ".toList ++ shownName f) f (streamOf sorted) d
      | none => writing (streamOf sorted) d
    { ran with readInput := readsInput files, code := 2 * ran.code }

/-- The numbers that a list of ranges names, up to `n`. -/
def inRanges (ranges : Text) (n : Nat) : Bool :=
  (Text.splitOn ',' ranges).any fun r =>
    match Text.cut '-' r with
    | (a, none) => Text.digitsValue a == n
    | (a, some b) =>
      (a.isEmpty || decide (Text.digitsValue a ≤ n)) &&
        (b.isEmpty || decide (n ≤ Text.digitsValue b))

/-- The items of a list whose places are in ranges. -/
def selected {α : Type} (ranges : Text) (xs : List α) : List α :=
  ((List.range xs.length).zip xs).filterMap fun (i, x) =>
    if inRanges ranges (i + 1) then some x else none

/-- Fields or characters of each line. -/
def cut : Program := fun args input d =>
  let value (c : Char) : Option Text :=
    (args.find? fun a => [ '-', c ].isPrefixOf a && 2 < a.length).map (·.drop 2)
  let following (c : Char) : Option Text := ((args.dropWhile (· != ['-', c])).tail).head?
  let option (c : Char) : Option Text := (value c).or (following c)
  let delimiter := ((option 'd').bind List.head?).getD '\t'
  let plain := args.filter fun a => a.head? != some '-' && some a != following 'd' &&
    some a != following 'f' && some a != following 'c'
  let line (l : Bytes) : Bytes :=
    let t := Utf8.decodeLossy l
    match option 'f', option 'c' with
    | some ranges, _ =>
      if t.contains delimiter then
        Utf8.encode (Text.joinWith [delimiter] (selected ranges (Text.splitOn delimiter t)))
      else l
    | none, some ranges => selected ranges l
    | none, none => l
  filtering "cut" plain input d fun bytes => streamOf ((linesOf bytes).map line)

/-- How much of a stream is wanted: so many lines or so many bytes. -/
inductive Share where
  | lines (n : Nat)
  | bytes (n : Nat)

/-- The share that options ask for, in one of several forms, and the other arguments; ten lines when
they ask for none. -/
def shareOf (args : List Text) : Share × List Text :=
  match args with
  | ['-', 'n'] :: n :: r => (.lines n.digitsValue, r)
  | ['-', 'c'] :: n :: r => (.bytes n.digitsValue, r)
  | ('-' :: 'n' :: n) :: r => (.lines (Text.digitsValue n), r)
  | ('-' :: 'c' :: n) :: r => (.bytes (Text.digitsValue n), r)
  | ('-' :: n) :: r =>
    if n ≠ [] ∧ n.all isAsciiDigit then (.lines (Text.digitsValue n), r) else (.lines 10, args)
  | _ => (.lines 10, args)

/-- The first part of a stream. -/
def firstPart (share : Share) (bytes : Bytes) : Bytes :=
  match share with
  | .bytes n => bytes.take n
  | .lines n =>
    let ls := linesOf bytes
    if ls.length ≤ n then bytes else streamOf (ls.take n)

/-- The last part of a stream; a last line that has no line feed gets none. -/
def lastPart (share : Share) (bytes : Bytes) : Bytes :=
  match share with
  | .bytes n => bytes.drop (bytes.length - n)
  | .lines n =>
    let ls := linesOf bytes
    let s := streamOf (ls.drop (ls.length - n))
    if bytes.getLast? = some feed then s else s.dropLast

/-- The first part of each file. -/
def head : Program := fun args input d =>
  let (share, files) := shareOf args
  sampling "head" files input d (firstPart share)

/-- The last part of each file. -/
def tail : Program := fun args input d =>
  let (share, files) := shareOf args
  sampling "tail" files input d (lastPart share)

/-- The lines, words and bytes of a stream. -/
def countsOf (bytes : Bytes) : List (Char × Nat) :=
  let words := ((Utf8.decodeLossy bytes).splitBy fun a b => ! isBlank a && ! isBlank b).filter
    fun w => ! w.all isBlank
  [('l', bytes.count feed), ('w', words.length), ('c', bytes.length)]

/-- Lines, words and bytes counted.  Several numbers stand in columns that are as wide as the size
of all files, and wide ones when that is not known beforehand. -/
def wc : Program := fun args input d =>
  let (options, files) := splitOptions args
  let sources := sourcesOf files input d
  let (errors, code) := complaints "wc" sources
  let wanted (counts : List (Char × Nat)) : List Nat := counts.filterMap fun x =>
    if options.isEmpty || hasOption x.1 options then some x.2 else none
  let counted := sources.filterMap fun x => match x.2 with
    | .ok bytes => some (x.1, countsOf bytes)
    | .error e => if isDirectoryFault e then some (x.1, countsOf []) else none
  let all := countsOf (readable sources)
  let unsized := readsInput files || sources.any fun x => match x.2 with
    | .ok _ => false
    | .error e => isDirectoryFault e
  let size := (Text.ofNat (readable sources).length).length
  let width := if files.length < 2 ∧ (wanted all).length < 2 then 1
    else if unsized then max 7 size else size
  let row (name : Text) (counts : List (Char × Nat)) : Text :=
    Text.joinWith [' '] ((wanted counts).map fun n => (Text.ofNat n).padLeft width) ++
      (if name = [] then [] else ' ' :: name) ++ ['\n']
  let rows := counted.map fun x => row x.1 x.2
  let rows := if files.length < 2 then rows else rows ++ [row "total".toList all]
  ⟨code, Utf8.encode rows.flatten, errors, d, 0, readsInput files⟩

/-- Equal lines that follow each other, each with how many there are. -/
def runs : List Bytes → List (Nat × Bytes)
  | [] => []
  | l :: ls =>
    match runs ls with
    | (n, m) :: r => if l = m then (n + 1, m) :: r else (1, l) :: (n, m) :: r
    | [] => [(1, l)]

/-- Lines without those that equal the one before; only those that come again or those that do not,
or with their numbers, if that is asked for. -/
def uniq : Program := fun args input d =>
  let (options, files) := splitOptions args
  filtering "uniq" files input d fun bytes =>
    let wanted := (runs (linesOf bytes)).filter fun x =>
      (! hasOption 'd' options || 1 < x.1) && (! hasOption 'u' options || x.1 == 1)
    streamOf (wanted.map fun (n, l) =>
      if hasOption 'c' options then Utf8.encode ((Text.ofNat n).padLeft 7 ++ [' ']) ++ l else l)

/-- Lines in reverse order. -/
def tac : Program := fun args input d =>
  filtering "tac" (splitOptions args).2 input d fun bytes => streamOf (linesOf bytes).reverse

/-- Each line with its characters in reverse order. -/
def rev : Program := fun args input d =>
  filtering "rev" (splitOptions args).2 input d fun bytes =>
    streamOf ((linesOf bytes).map fun l => Utf8.encode (Utf8.decodeLossy l).reverse)

/-- The characters that a set names. -/
def setOf : Nat → Text → Text
  | 0, _ => []
  | fuel + 1, t =>
    match t with
    | '\\' :: 'n' :: r => '\n' :: setOf fuel r
    | '\\' :: 't' :: r => '\t' :: setOf fuel r
    | '\\' :: c :: r => c :: setOf fuel r
    | a :: '-' :: b :: r =>
      (List.range (b.toNat + 1 - a.toNat)).map (fun i => Char.ofNat (a.toNat + i)) ++ setOf fuel r
    | c :: r =>
      if "[:upper:]".toList.isPrefixOf t then
        "ABCDEFGHIJKLMNOPQRSTUVWXYZ".toList ++ setOf fuel (t.drop 9)
      else if "[:lower:]".toList.isPrefixOf t then
        "abcdefghijklmnopqrstuvwxyz".toList ++ setOf fuel (t.drop 9)
      else c :: setOf fuel r
    | [] => []

/-- Bytes of which those for which `squeezed` holds do not follow themselves. -/
def squeeze (squeezed : UInt8 → Bool) : Bytes → Bytes
  | [] => []
  | [b] => [b]
  | b :: c :: r =>
    if b = c ∧ squeezed b then squeeze squeezed (c :: r) else b :: squeeze squeezed (c :: r)

/-- Bytes replaced, left out or squeezed. -/
def tr : Program := fun args input d =>
  let (options, sets) := splitOptions args
  let set (i : Nat) : List UInt8 :=
    let t : Text := (Utf8.encode (sets[i]?.getD [])).map byteChar
    (setOf (t.length + 1) t).map fun c => UInt8.ofNat c.toNat
  let first := set 0
  let second := set 1
  let replace (b : UInt8) : UInt8 :=
    match first.idxOf? b with
    | some i => (second[i]?.or second.getLast?).getD b
    | none => b
  let output := if hasOption 'd' options then input.filter fun b => ! first.contains b
    else if second.isEmpty then input else input.map replace
  let last := if second.isEmpty then first else second
  let output := if hasOption 's' options then squeeze last.contains output else output
  { writing output d with readInput := true }

/-- The input, which is also written to files. -/
def tee : Program := fun args input d =>
  let (options, files) := splitOptions args
  files.foldl (fun (r : Ran) f =>
    let old := if hasOption 'a' options then (r.disk.readBytes (pathOf f)).toOption.getD [] else []
    let next := storing ("tee: ".toList ++ shownName f) f (old ++ input) r.disk
    { r with code := max r.code next.code, errors := r.errors ++ next.errors, disk := next.disk })
    { writing input d with readInput := true }

end ExMode.Shell.Program

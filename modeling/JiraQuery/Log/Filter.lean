import JiraQuery.Log.Event
import JiraQuery.Pattern.Support
import JiraQuery.Text.AlphanumericTable
import JiraQuery.Text.Bytes

/-!
# Log filters

A filter is a list of directives, separated by commas: a level for everything, or for the targets that
begin in a certain way, or for the events that have a certain value. Of the directives that concern an
event the closest one decides, and of equally close ones the last. Main statements:
`mem_of_decides` and `concerns_of_decides` (what decides on an event is a directive of the filter that
concerns it), `allows_of_decides`.
-/

namespace JiraQuery

/-- A value that has to be there, and perhaps a pattern for it. -/
structure FieldTest where
  name : String
  pattern : Option String := none
  deriving DecidableEq, Repr

/-- Lets events of a level and more urgent ones through, or none at all. -/
structure Directive where
  /-- The beginning of the targets that it concerns, or all. -/
  target : Option String := none
  /-- The span that has to be open. -/
  span : Option String := none
  field : Option FieldTest := none
  /-- Without a level nothing gets through. -/
  level : Option Level := some .trace
  deriving DecidableEq, Repr

namespace Directive

/-- Whether a directive is about open spans: one that names a span, or a pattern, which only the values
of a span are held against. -/
def needsSpan (d : Directive) : Bool :=
  d.span.isSome || d.field.any (·.pattern.isSome)

/-- Events are told outside of all spans. -/
def concerns (d : Directive) (e : Event) : Bool :=
  !d.needsSpan && d.target.all (·.toList.isPrefixOf e.target.toList) &&
    d.field.all (e.hasField ·.name)

def allows (d : Directive) (e : Event) : Bool :=
  d.level.any fun l => e.level.rank ≤ l.rank

/-- Grows with the size of the target in bytes; directives for all targets have the least rank. -/
def targetRank (d : Directive) : Nat :=
  d.target.elim 0 (·.utf8ByteSize + 1)

/-- Whether the first name is equal to the second or comes after it; no name comes before all. -/
def laterName : Option String → Option String → Bool
  | _, none => true
  | none, some _ => false
  | some a, some b => b ≤ a

/-- Whether `d` is as close to the events that it concerns as `b` is. The longer target is closer; of
equal ones that with a field is, and of two fields that with the later name. -/
def asCloseAs (d b : Directive) : Bool :=
  b.targetRank < d.targetRank || (b.targetRank = d.targetRank &&
    laterName (d.field.map (·.name)) (b.field.map (·.name)))

/-! ## Reading -/

/-- The level of a number from 0, for none, to 5. -/
def levelOfNumber? : Nat → Option (Option Level)
  | 0 => some none
  | n + 1 => (Level.all[n]?).map some

/-- Reads a level by its name, in any case, or by its number. -/
def level? (s : List Char) : Option (Option Level) :=
  let digits := match s with
    | '+' :: ds => ds
    | ds => ds
  if !digits.isEmpty && digits.all Char.isDigit then
    levelOfNumber? (digits.foldl (fun n c => 10 * n + (c.toNat - 0x30)) 0)
  else
    let name := s.map Char.toUpper
    if name = "OFF".toList then some none
    else (Level.all.find? (·.label.toList = name)).map some

/-- What a directive may begin with, other than a bracket. -/
def isStart (c : Char) : Bool :=
  c = '-' || c = ':' || c = '_' || Text.isAlphanumeric c

/-- A text that is read by byte places. The places are counted without the blanks at its ends, but
they are looked up in the whole text. -/
structure Reader where
  whole : List Char
  /-- What is left of the trimmed text, and how many bytes went before. -/
  rest : List Char
  place : Nat

namespace Reader

def ofChars (s : List Char) : Reader :=
  ⟨s, Text.trimChars s, 0⟩

/-- Passes over characters as long as they satisfy `p`, and then over the one that stops it. The text
that was passed over is the first part of the result, the character the second. -/
def upTo? (r : Reader) (p : Char → Bool) : Option (List Char × Char × Reader) :=
  let passed := r.rest.takeWhile p
  let size := Text.byteSize passed
  match r.rest.drop passed.length with
  | [] => none
  | c :: rest => (Text.bytes? r.place size r.whole).map
      (·, c, ⟨r.whole, rest, r.place + size + c.utf8Size⟩)

/-- All text from the place on. -/
def tail? (r : Reader) : Option (List Char) :=
  Text.dropBytes? r.place r.whole

/-- The level after an equals sign; the empty one lets everything through. -/
def level? (r : Reader) : Option (Option Level) :=
  r.tail?.bind fun s => if s.isEmpty then some (some .trace) else Directive.level? s

end Reader

/-- Reads the test of a field: a name, and a pattern after an equals sign. -/
def fieldTest? (s : List Char) : Option FieldTest :=
  let name := String.ofList (s.takeWhile (· ≠ '='))
  match s.dropWhile (· ≠ '=') with
  | [] => some { name }
  | _ :: s =>
    let pattern := s.takeWhile (· ≠ '=')
    if Pattern.isReadable pattern then some { name, pattern := some (String.ofList pattern) }
    else none

/-- Reads what follows a span or a field: nothing, or a level. -/
def readLevel? (d : Directive) (r : Reader) : Option Directive :=
  match r.rest with
  | [] => some d
  | '=' :: rest =>
    let r : Reader := { r with rest, place := r.place + 1 }
    r.level?.map fun level => { d with level }
  | _ => none

/-- Reads what follows an opening bracket: the name of a span, which may be empty, or a field in
braces, or both. -/
def readSpan? (d : Directive) (r : Reader) : Option Directive := do
  let (name, stop, r) ← r.upTo? fun c => c ≠ ']' && c ≠ '\x7b'
  if stop = ']' then readLevel? { d with span := some (String.ofList name) } r
  else
    let span := if name.isEmpty then none else some (String.ofList name)
    let (text, _, r) ← r.upTo? (· ≠ '\x7d')
    if text.isEmpty then none
    let field ← fieldTest? text
    match r.rest with
    | ']' :: rest =>
      readLevel? { d with span, field := some field } { r with rest, place := r.place + 1 }
    | _ => none

/-- Reads a directive. A lone word is a level or, if there is no such level, a target. -/
def parse? (s : List Char) : Option Directive :=
  let r := Reader.ofChars s
  match r.rest with
  | [] => none
  | '[' :: rest => readSpan? {} { r with rest, place := 1 }
  | c :: _ =>
    if !isStart c then none
    else match r.upTo? fun c => c ≠ '=' && c ≠ '[' with
      | some (target, '=', r) =>
        r.level?.map fun level => { target := some (String.ofList target), level }
      | some (target, _, r) => readSpan? { target := some (String.ofList target) } r
      | none => match level? s with
        | some level => some { level }
        | none => some { target := some (String.ofList s) }

end Directive

/-- Directives in the order in which they were given. -/
abbrev LogFilter := List Directive

namespace LogFilter

/-- The texts between commas. -/
def splitCommas : List Char → List (List Char)
  | [] => [[]]
  | c :: s =>
    if c = ',' then [] :: splitCommas s
    else match splitCommas s with
      | [] => [[c]]
      | part :: parts => (c :: part) :: parts

/-- Reads a filter; one without directives lets errors through. -/
def parse? (text : String) : Option LogFilter :=
  let parts := (splitCommas text.toList).filter (!·.isEmpty)
  if parts.isEmpty then some [{ level := some .error }] else parts.mapM Directive.parse?

/-- The filter where none is given, or one that cannot be read. -/
def default : LogFilter :=
  [{ target := some "jqlkit", level := some .info }, { level := some .warn }]

def ofVariable (value : Option String) : LogFilter :=
  (value.bind parse?).getD default

/-- The closer of the directive that decides so far and one after it. -/
def closer (best : Option Directive) (d : Directive) : Option Directive :=
  match best with
  | some b => if d.asCloseAs b then some d else some b
  | none => some d

/-- The directive that decides on an event. -/
def decides? (f : LogFilter) (e : Event) : Option Directive :=
  (f.filter (·.concerns e)).foldl closer none

def allows (f : LogFilter) (e : Event) : Bool :=
  (f.decides? e).any (·.allows e)

theorem closer_eq_some {best : Option Directive} {d x : Directive} (h : closer best d = some x) :
    x = d ∨ best = some x := by
  unfold closer at h
  grind

theorem mem_of_foldl_closer {ds : List Directive} {best : Option Directive} {x : Directive}
    (h : ds.foldl closer best = some x) : x ∈ ds ∨ best = some x := by
  induction ds generalizing best with
  | nil => exact .inr h
  | cons d ds ih =>
    rcases ih h with hx | hx
    · exact .inl (List.mem_cons_of_mem d hx)
    · rcases closer_eq_some hx with rfl | hx
      · exact .inl List.mem_cons_self
      · exact .inr hx

theorem mem_of_decides {f : LogFilter} {e : Event} {d : Directive} (h : f.decides? e = some d) :
    d ∈ f := by
  simpa using (List.mem_filter.1 ((mem_of_foldl_closer h).resolve_right nofun)).1

theorem concerns_of_decides {f : LogFilter} {e : Event} {d : Directive}
    (h : f.decides? e = some d) : d.concerns e :=
  (List.mem_filter.1 ((mem_of_foldl_closer h).resolve_right nofun)).2

theorem allows_of_decides {f : LogFilter} {e : Event} {d : Directive} (h : f.decides? e = some d) :
    f.allows e = d.allows e := by
  simp [allows, h]

end LogFilter

end JiraQuery

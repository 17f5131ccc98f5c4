/-!
# Files and directories

A tree of files and directories, as far as configurations and logs need one, and the paths that lead
through it. A path is followed step by step, and each step needs a directory to start from. Main
statements: `walk_put` (what is put where there is no directory changes no way), `read_store` (a file
that is stored reads back).
-/

namespace JiraQuery

inductive DiskEntry
  /-- A file with its text, unless what it holds is no text. -/
  | file (text : Option String)
  | directory
  deriving DecidableEq, Repr

/-- What there is, by its place: the steps from the directory where paths begin, or a slash and the
steps from the top. These two directories and those above the first one are always there. -/
structure Disk where
  entries : List (List String × DiskEntry) := []
  /-- How many bytes lead from the top to the directory where paths begin. -/
  startSize : Nat := 0
  deriving DecidableEq, Repr

namespace Disk

/-! ## Paths -/

/-- The texts between slashes. -/
def splitPath : List Char → List (List Char)
  | [] => [[]]
  | c :: s =>
    if c = '/' then [] :: splitPath s
    else match splitPath s with
      | [] => [[c]]
      | part :: parts => (c :: part) :: parts

def parts (path : String) : List String :=
  (splitPath path.toList).map String.ofList

/-- The steps of a path; doubled slashes have nothing between them. -/
def steps (path : String) : List String :=
  (parts path).filter (· ≠ "")

/-- Whether a path can only mean a directory. -/
def endsInSlash (path : String) : Bool :=
  path.toList.getLast? = some '/'

/-- Drops what a path has at its end without going further. -/
def dropIdle (parts : List String) : List String :=
  (parts.reverse.dropWhile fun part => part = "" || part = ".").reverse

/-- The path to the directory that holds the last step. -/
def parentPath (path : String) : String :=
  "/".intercalate (dropIdle (dropIdle (parts path)).dropLast)

/-- Whether a path begins at the top. -/
def isAbsolute (path : String) : Bool :=
  path.toList.head? = some '/'

/-- Whether a path can be looked up at all: from the top it has less than 4096 bytes, and it has no
null character. -/
def isPath (d : Disk) (path : String) : Bool :=
  (if isAbsolute path then 0 else d.startSize) + path.utf8ByteSize < 4096 &&
    !path.toList.contains '\x00'

/-- A name has at most 255 bytes. -/
def isName (step : String) : Bool :=
  step.utf8ByteSize ≤ 255

/-! ## Entries -/

/-- The top. -/
def root : List String :=
  ["/"]

/-- The places that are always there: the top, the one where paths begin and, as double dots, those
above it. -/
def isFixed (place : List String) : Bool :=
  place = root || place.all (· = "..")

/-- What is at a place. -/
def find? (d : Disk) (place : List String) : Option DiskEntry :=
  if isFixed place then some .directory else d.entries.lookup place

def isDirectory (d : Disk) (place : List String) : Bool :=
  d.find? place = some .directory

def put (d : Disk) (place : List String) (e : DiskEntry) : Disk :=
  { d with entries := (place, e) :: d.entries.filter (·.1 ≠ place) }

/-! ## Following paths -/

/-- The place above another one; above the top there is none. -/
def above (place : List String) : List String :=
  if place = root then root
  else if isFixed place then place ++ [".."]
  else place.dropLast

/-- Where a path begins. -/
def origin (path : String) : List String :=
  if isAbsolute path then root else []

/-- Follows steps from a place. The place where they lead may be empty, all before it are directories. -/
def walk (d : Disk) (place : List String) : List String → Option (List String)
  | [] => some place
  | step :: rest =>
    if !d.isDirectory place then none
    else if step = "." then d.walk place rest
    else if step = ".." then d.walk (above place) rest
    else if isName step then d.walk (place ++ [step]) rest
    else none

/-- The place where a path leads. -/
def resolve? (d : Disk) (path : String) : Option (List String) :=
  if d.isPath path then d.walk (origin path) (steps path) else none

/-- Makes the directories that are missing on a way, up to a file or to a step that is no name; the
result also tells whether all of them are there now. -/
def makeWay (d : Disk) (place : List String) : List String → Bool × Disk
  | [] => (true, d)
  | step :: rest => match d.walk place [step] with
    | none => (false, d)
    | some next => match d.find? next with
      | some .directory => d.makeWay next rest
      | some (.file _) => (false, d)
      | none => (d.put next .directory).makeWay next rest

def makeDirectories (d : Disk) (path : String) : Bool × Disk :=
  if d.isPath path then d.makeWay (origin path) (steps path) else (false, d)

/-! ## Files -/

/-- The text of a file. -/
def read? (d : Disk) (path : String) : Option String :=
  if endsInSlash path then none
  else match (d.resolve? path).bind d.find? with
    | some (.file text) => text
    | _ => none

/-- Stores an entry where there is no directory. -/
def store? (d : Disk) (path : String) (e : DiskEntry) : Option Disk :=
  if endsInSlash path then none
  else (d.resolve? path).bind fun place =>
    if d.isDirectory place then none else some (d.put place e)

/-- Writes a file into a directory that is there. -/
def write? (d : Disk) (path text : String) : Option Disk :=
  d.store? path (.file (some text))

/-- Stores an entry, if that is possible, and makes the directories on the way. -/
def place (d : Disk) (path : String) (e : DiskEntry) : Disk :=
  let d := (d.makeDirectories (parentPath path)).2
  (d.store? path e).getD d

/-- Whether one path comes before another one, step by step. -/
def pathLe : List String → List String → Bool
  | [], _ => true
  | _ :: _, [] => false
  | a :: as, b :: bs => if a = b then pathLe as bs else a < b

/-- All paths, in order. -/
def paths (d : Disk) : List (List String) :=
  (d.entries.map (·.1)).mergeSort pathLe

theorem lookup_filter_ne {α : Type} (k : List String) (es : List (List String × α)) (j : List String)
    (h : j ≠ k) : (es.filter (·.1 ≠ k)).lookup j = es.lookup j := by
  induction es with
  | nil => rfl
  | cons e es ih =>
    by_cases he : e.1 = k
    · have : j ≠ e.1 := he ▸ h
      rw [List.filter_cons_of_neg (by simp [he]), ih, List.lookup_cons, beq_false_of_ne this]
    · rw [List.filter_cons_of_pos (by simp [he]), List.lookup_cons, List.lookup_cons, ih]

theorem find?_put {d : Disk} {k : List String} (hk : d.isDirectory k = false) (j : List String)
    (e : DiskEntry) : (d.put k e).find? j = if j = k then some e else d.find? j := by
  have hup : isFixed k = false := Bool.eq_false_iff.2 fun h => by
    simp [isDirectory, find?, h] at hk
  unfold find? put
  by_cases h : j = k
  · subst h
    simp [hup]
  · simp only [h, if_false, List.lookup_cons, beq_false_of_ne h]
    rw [lookup_filter_ne k d.entries j h]

theorem isDirectory_put {d : Disk} {k : List String} (hk : d.isDirectory k = false) {j : List String}
    (e : DiskEntry) (hj : d.isDirectory j) : (d.put k e).isDirectory j := by
  have hne : j ≠ k := fun h => by simp [h, hk] at hj
  rw [isDirectory, find?_put hk, if_neg hne]
  exact hj

theorem walk_put {d : Disk} {k : List String} (hk : d.isDirectory k = false) (e : DiskEntry)
    {place target : List String} {way : List String} (h : d.walk place way = some target) :
    (d.put k e).walk place way = some target := by
  induction way generalizing place with
  | nil => exact h
  | cons step rest ih =>
    rw [walk] at h ⊢
    split at h
    · simp at h
    · next hd =>
      rw [if_neg (by simpa using isDirectory_put hk e (by simpa using hd))]
      split at h
      · next h1 => rw [if_pos h1]; exact ih h
      · next h1 =>
        rw [if_neg h1]
        split at h
        · next h2 => rw [if_pos h2]; exact ih h
        · next h2 =>
          rw [if_neg h2]
          split at h
          · next h3 => rw [if_pos h3]; exact ih h
          · simp at h

theorem resolve?_put {d : Disk} {k : List String} (hk : d.isDirectory k = false) (e : DiskEntry)
    {path : String} {target : List String} (h : d.resolve? path = some target) :
    (d.put k e).resolve? path = some target := by
  unfold resolve? at h ⊢
  split at h
  · next hp => rw [if_pos (show (d.put k e).isPath path from hp)]; exact walk_put hk e h
  · simp at h

theorem read_store {d d' : Disk} {path : String} {text : Option String}
    (h : d.store? path (.file text) = some d') : d'.read? path = text := by
  unfold store? at h
  split at h
  · simp at h
  · next hs =>
    obtain ⟨place, hp, h⟩ := Option.bind_eq_some_iff.1 h
    split at h
    · simp at h
    · next hd =>
      obtain rfl := Option.some.inj h
      have hd : d.isDirectory place = false := by simpa using hd
      simp [read?, hs, resolve?_put hd _ hp, find?_put hd]

theorem read_write {d d' : Disk} {path text : String} (h : d.write? path text = some d') :
    d'.read? path = some text :=
  read_store h

end Disk

end JiraQuery

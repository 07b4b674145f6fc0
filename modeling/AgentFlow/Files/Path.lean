import AgentFlow.Text.Utf8

/-!
# Paths

A path is the names on the way to a file, and the slashes it starts with: none if
it is relative, one, or exactly two.  Empty names and single dots are left out;
two dots stay.
-/

namespace AgentFlow

/-- A path. -/
structure Path where
  slashes : Nat
  parts : List String
  deriving DecidableEq, Repr

namespace Path

/-- The pieces of a text between slashes. -/
def splitAtSlashes : List Char → List (List Char)
  | [] => [[]]
  | c :: rest =>
    if c = '/' then [] :: splitAtSlashes rest
    else
      match splitAtSlashes rest with
      | [] => [[c]]
      | piece :: pieces => (c :: piece) :: pieces

/-- The names that count: a piece that is empty or a single dot does not. -/
def isName (piece : List Char) : Bool :=
  !piece.isEmpty && piece != ['.']

/-- The slashes that a text starts with, three or more counting as one. -/
def leadingSlashes (cs : List Char) : Nat :=
  let count := (cs.takeWhile (· == '/')).length
  if count = 2 then 2 else min count 1

/-- The path that a text spells. -/
def ofText (s : String) : Path :=
  let cs := s.toList
  ⟨leadingSlashes cs, ((splitAtSlashes cs).filter isName).map String.ofList⟩

/-- Whether the path starts at the root. -/
def isAbsolute (p : Path) : Bool := p.slashes != 0

/-- The path as a text; the empty one is a single dot. -/
def text (p : Path) : String :=
  if p.slashes = 0 ∧ p.parts.isEmpty then "."
  else String.ofList (List.replicate p.slashes '/') ++ String.intercalate "/" p.parts

/-- A path taken from another one; an absolute path stands for itself. -/
def join (p q : Path) : Path :=
  if q.isAbsolute then q else ⟨p.slashes, p.parts ++ q.parts⟩

/-- A path with the path that a text spells put after it. -/
def child (p : Path) (s : String) : Path := p.join (ofText s)

/-- The last name, empty if there is none. -/
def name (p : Path) : String := p.parts.getLastD ""

/-- The path without its last name. -/
def parent (p : Path) : Path := ⟨p.slashes, p.parts.dropLast⟩

/-- A name without its last dot and what follows it, unless the dot is the first or
the last character. -/
def stemOf (name : String) : String :=
  let backwards := name.toList.reverse
  let suffix := backwards.takeWhile (· != '.')
  match backwards.drop suffix.length with
  | [] => name
  | _ :: before =>
    if before.isEmpty || suffix.isEmpty then name else String.ofList before.reverse

/-- The last name without its suffix. -/
def stem (p : Path) : String := stemOf p.name

/-- The path with a text put after its last name; there must be one. -/
def appendToName? (p : Path) (suffix : String) : Option Path :=
  if p.parts.isEmpty then none
  else some ⟨p.slashes, p.parts.dropLast ++ [p.name ++ suffix]⟩

/-- Whether a text holds the character that no path may hold. -/
def hasNul (p : Path) : Bool :=
  p.parts.any fun part => part.toList.contains '\x00'

theorem join_relative {p q : Path} (relative : q.slashes = 0) :
    p.join q = ⟨p.slashes, p.parts ++ q.parts⟩ := by
  simp [join, isAbsolute, relative]

theorem join_absolute {p q : Path} (absolute : q.isAbsolute = true) : p.join q = q := by
  simp [join, absolute]

end Path

/-- The people of the machine: whose directory a leading `~` stands for. -/
structure Homes where
  own : String
  others : List (String × String)
  deriving DecidableEq, Repr

/-- Why a leading `~` stands for nothing. -/
inductive HomeFault where
  | unknown (user : String)
  | nul
  deriving DecidableEq, Repr

namespace Homes

/-- A home directory without the slashes at its end. -/
def withoutTrailingSlashes (home : String) : String :=
  String.ofList (home.toList.reverse.dropWhile (· == '/')).reverse

/-- The directory of a user, the own one if no user is named. -/
def directory? (homes : Homes) (user : List Char) : Except HomeFault String :=
  if user.isEmpty then .ok homes.own
  else if user.contains '\x00' then .error .nul
  else
    let name := String.ofList user
    match homes.others.lookup name with
    | some home => .ok home
    | none => .error (.unknown name)

/-- A relative path that starts with `~` or `~user` starts in a home directory. -/
def expand (homes : Homes) (p : Path) : Except HomeFault Path :=
  match p.slashes, p.parts with
  | 0, first :: rest =>
    match first.toList with
    | '~' :: user =>
      (homes.directory? user).map fun home =>
        let start := Path.ofText (withoutTrailingSlashes home)
        let slashes := if home.toList.all (· == '/') then 1 else start.slashes
        ⟨slashes, start.parts ++ rest⟩
    | _ => .ok p
  | _, _ => .ok p

end Homes

end AgentFlow

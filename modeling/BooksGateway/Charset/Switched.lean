import BooksGateway.Charset.Chinese
import BooksGateway.Charset.Japanese.Planes
import BooksGateway.Charset.Korean

/-!
# Sets of characters switched by sequences

In these forms all octets are below 0x80, and a sequence of octets says from which set the
characters after it are taken. There are three places for sets: the first one is the one in use, the
second one is in use after a shift, and the third one is for single characters that are announced.

1. Sets.
2. Forms.
3. Sequences.
4. The reader.
5. The forms.
-/

namespace BooksGateway.Switched

/-! ## 1. Sets -/

/-- What a set of characters is called: the last octet of the sequences for it, and whether its
    characters have two octets. -/
structure SetName where
  /-- Whether its characters have two octets. -/
  isDouble : Bool
  /-- The last octet of the sequences for it. -/
  last : Nat
  deriving DecidableEq, Repr

/-- The first 128 characters. -/
def SetName.common : SetName := ⟨false, 'B'.toNat⟩

/-- A place for a set. -/
inductive Slot where
  /-- For the set in use. -/
  | first
  /-- For the set in use after a shift. -/
  | second
  /-- For the set of single characters that are announced. -/
  | third
  deriving DecidableEq, Repr

/-- What keeps octets from being read at all. -/
inductive Trouble where
  /-- Too many octets of a sequence whose end is missing. -/
  | overlong
  /-- A single character is announced from a set that has none. -/
  | unannounced
  deriving DecidableEq, Repr

/-- The words for trouble. -/
def Trouble.message : Trouble → String
  | .overlong => "pending buffer overflow"
  | .unannounced => "internal codec error"

/-- What is known while octets are read. -/
structure State where
  /-- The set in the first place. -/
  first : SetName := .common
  /-- The set in the second place. -/
  second : SetName := .common
  /-- The set in the third place. -/
  third : SetName := .common
  /-- Whether the set in the second place is in use. -/
  isShifted : Bool := false
  /-- Whether a sequence that is not for this form passes through as it is. -/
  isPassing : Bool := false
  /-- The first trouble. -/
  trouble : Option Trouble := none
  deriving DecidableEq, Repr

/-- The state after trouble. -/
def State.withTrouble (state : State) (trouble : Trouble) : State :=
  { state with trouble := state.trouble <|> some trouble }

/-- The state with a set put into a place. -/
def State.put (state : State) (set : SetName) : Slot → State
  | .first => { state with first := set }
  | .second => { state with second := set }
  | .third => { state with third := set }

/-! ## 2. Forms -/

/-- A form in which sets are switched by sequences. -/
structure Form where
  /-- The sets whose characters have one octet, besides the common one. -/
  singles : List (Char × (Nat → Option Char))
  /-- The sets whose characters have two octets. -/
  doubles : List (Char × (Nat → Nat → Option (List Char)))
  /-- Whether the second place is reached by a shift. -/
  hasShifts : Bool := false
  /-- Whether the third place is there. -/
  hasThird : Bool := false
  /-- Whether a sequence may announce by a prefix that a later edition of its set is meant. -/
  hasPrefix : Bool := false

/-- Whether a set belongs to a form. -/
def Form.has (form : Form) (set : SetName) : Bool :=
  set == .common
    || if set.isDouble then form.doubles.any (·.1.toNat == set.last)
      else form.singles.any (·.1.toNat == set.last)

/-- The character for an octet in a set. -/
def Form.single? (form : Form) (last a : Nat) : Option Char :=
  (form.singles.find? (·.1.toNat == last)).bind (·.2 a)

/-- The characters for a pair of octets in a set. -/
def Form.double? (form : Form) (last a b : Nat) : Option (List Char) :=
  (form.doubles.find? (·.1.toNat == last)).bind (·.2 a b)

/-- The piece at the start of octets, from a set. -/
def Form.piece (form : Form) (set : SetName) (octets : List Nat) : List Char × Nat :=
  match set.isDouble, octets with
  | true, a :: b :: _ => (form.double? set.last a b).elim (Octets.damage 2) (·, 2)
  | true, _ => Octets.damage 1
  | false, a :: _ =>
    if set == .common then Octets.one (Char.ofNat a) 1
    else (form.single? set.last a).elim (Octets.damage 1) (Octets.one · 1)
  | false, [] => Octets.damage 1

/-! ## 3. Sequences -/

/-- The octet that begins a sequence. -/
def escape : Nat := 0x1B

/-- Whether an octet ends a sequence. -/
def isLast (octet : Nat) : Bool := '@'.toNat ≤ octet && octet ≤ 'Z'.toNat

/-- The second octets of sequences that are for these forms. -/
def isKnownSecond (octet : Nat) : Bool := "()$.&".toList.any (·.toNat == octet)

/-- Where a sequence ends. -/
inductive Extent where
  /-- After a number of octets. -/
  | closed (size : Nat)
  /-- Not before the octets end. -/
  | cut
  /-- Too late. -/
  | endless
  deriving DecidableEq, Repr

/-- Where a sequence ends of which some octets are passed. The next `skip` ones cannot be the last
    one, and there may be `room` more in all. -/
def extentFrom (form : Form) : (skip room passed : Nat) → List Nat → Extent
  | _, 0, _, _ => .endless
  | _, _ + 1, _, [] => .cut
  | skip + 1, room + 1, passed, _ :: rest => extentFrom form skip room (passed + 1) rest
  | 0, room + 1, passed, octet :: rest =>
    if isLast octet then .closed (passed + 1)
    else
      let isPrefix := form.hasPrefix && octet == '&'.toNat && rest.head? == some '@'.toNat
      extentFrom form (if isPrefix then 2 else 0) room (passed + 1) rest

/-- The most octets in a sequence. -/
def longest : Nat := 16

/-- The most octets of a sequence whose end is missing. -/
def longestOpen : Nat := 8

/-- What a sequence means, by its characters after the first octet: a place, and the set to be put
    there. -/
def meaning? (form : Form) (sequence : List Char) : Option (Slot × SetName) :=
  match sequence with
  | ['$', last] => some (.first, ⟨true, last.toNat⟩)
  | ['(', last] => some (.first, ⟨false, last.toNat⟩)
  | [')', last] => some (.second, ⟨false, last.toNat⟩)
  | ['.', last] => if form.hasThird then some (.third, ⟨false, last.toNat⟩) else none
  | ['$', '(', last] => some (.first, ⟨true, last.toNat⟩)
  | ['$', ')', last] => some (.second, ⟨true, last.toNat⟩)
  | [_, _, '\x1b', '$', 'B'] => if form.hasPrefix then some (.first, ⟨true, 'B'.toNat⟩) else none
  | _ => none

/-- The piece for a sequence that puts a set into a place. -/
def sequencePiece (form : Form) (state : State) (octets : List Nat) : Octets.Piece State :=
  match extentFrom form 0 (longest - 1) 1 (octets.drop 1) with
  | .cut =>
    let count := octets.length
    ⟨[Octets.mark], count, if longestOpen < count then state.withTrouble .overlong else state⟩
  | .endless => ⟨[Octets.mark], 1, state⟩
  | .closed size =>
    match meaning? form ((octets.take size).drop 1 |>.map Char.ofNat) with
    | some (slot, set) =>
      if form.has set then ⟨[], size, state.put set slot⟩ else ⟨[Octets.mark], size, state⟩
    | none => ⟨[Octets.mark], size, state⟩

/-- The Greek character for an octet. -/
def greek? (octet : Nat) : Option Char :=
  if octet ≤ 0xA0 then some (Char.ofNat octet)
  else if octet = 0xA1 then some '‘'
  else if octet = 0xA2 then some '’'
  else if octet = 0xAF then some '―'
  else if [0xA3, 0xA6, 0xA7, 0xA8, 0xA9, 0xAB, 0xAC, 0xAD, 0xB0, 0xB1, 0xB2, 0xB3, 0xB7, 0xBB,
      0xBD].contains octet then some (Char.ofNat octet)
  else if 0xB4 ≤ octet && octet ≤ 0xFE && octet != 0xD2 then some (Char.ofNat (0x2D0 + octet))
  else none

/-- The characters for octets that are announced from a set in the third place, if it has any. -/
def announced? (set : SetName) : Option (Nat → Option Char) :=
  if set == .common then
    some fun octet => if octet < 0x80 then some (Char.ofNat octet) else none
  else if set == ⟨false, 'A'.toNat⟩ then
    some fun octet => if octet < 0x80 then some (Char.ofNat (octet + 0x80)) else none
  else if set == ⟨false, 'F'.toNat⟩ then
    some fun octet => greek? (if octet < 0x80 then octet + 0x80 else octet - 0x80)
  else none

/-- The piece for a single character that is announced. -/
def announcedPiece (state : State) : List Nat → Octets.Piece State
  | _ :: _ :: octet :: _ =>
    match announced? state.third with
    | some charOf? => ⟨[(charOf? octet).getD Octets.mark], 3, state⟩
    | none => ⟨[Octets.mark], 3, state.withTrouble .unannounced⟩
  | octets => ⟨[Octets.mark], octets.length, state⟩

/-! ## 4. The reader -/

/-- What stands at the start of octets. The end of a line ends a shift. -/
def next (form : Form) (state : State) (octets : List Nat) : Octets.Piece State :=
  match octets with
  | [] => ⟨[], 0, state⟩
  | octet :: rest =>
    if state.isPassing then ⟨[Char.ofNat octet], 1, { state with isPassing := !isLast octet }⟩
    else if octet = escape then
      match rest with
      | [] => ⟨[Octets.mark], 1, state⟩
      | second :: _ =>
        if isKnownSecond second then sequencePiece form state octets
        else if form.hasThird && second = 'N'.toNat then announcedPiece state octets
        else ⟨['\x1b'], 1, { state with isPassing := true }⟩
    else if form.hasShifts && (octet = 0x0E || octet = 0x0F) then
      ⟨[], 1, { state with isShifted := octet = 0x0E }⟩
    else if octet = '\n'.toNat then ⟨['\n'], 1, { state with isShifted := false }⟩
    else if octet < 0x20 then ⟨[Char.ofNat octet], 1, state⟩
    else if 0x80 ≤ octet then ⟨[Octets.mark], 1, state⟩
    else
      let (chars, size) := form.piece (if state.isShifted then state.second else state.first) octets
      ⟨chars, size, state⟩

/-- The reader of a form. -/
def Form.reader (form : Form) : Octets.Reader State where
  start := {}
  next := Switched.next form

/-- The text of octets in a form. -/
def Form.read (form : Form) (octets : List Nat) : Except Trouble String :=
  match (form.reader.finalState octets).trouble with
  | some trouble => .error trouble
  | none => .ok (form.reader.read octets)

/-! ## 5. The forms -/

/-- The characters in the rows of a set, for octets that count from 0x21. -/
def inRows (set : Nat → Nat → Option (List Char)) (a b : Nat) : Option (List Char) :=
  if 0x21 ≤ a && 0x21 ≤ b then set (a - 0x21) (b - 0x21) else none

/-- The characters of a set whose octets have 0x80 added to them in other forms. -/
def lowered (set : Nat → Nat → Option Char) (a b : Nat) : Option (List Char) :=
  (set (a + 0x80) (b + 0x80)).map ([·])

/-- The first Japanese set, by its name in either of two editions. -/
def kanji (last : Char) : Char × (Nat → Nat → Option (List Char)) :=
  (last, inRows fun row place => (Japanese.firstSet? row place).map ([·]))

/-- The second Japanese set. -/
def supplement : Char × (Nat → Nat → Option (List Char)) :=
  ('D', inRows fun row place => (Japanese.supplement.charOf? row place).map ([·]))

/-- The characters at a place of the first plane of the extended set, which has a tilde here. -/
def planeChars? (edition : Japanese.Edition) (row place : Nat) : Option (List Char) :=
  if row = 1 && place = 17 then some ['~'] else Japanese.firstPlane? edition row place

/-- The first plane of the extended set. -/
def firstPlane (last : Char) (edition : Japanese.Edition) :
    Char × (Nat → Nat → Option (List Char)) :=
  (last, inRows (planeChars? edition))

/-- The second plane of the extended set, which is that of the later edition in any case. -/
def secondPlane : Char × (Nat → Nat → Option (List Char)) :=
  ('P', inRows (Japanese.secondPlane? .late))

/-- The Korean set. -/
def hangul : Char × (Nat → Nat → Option (List Char)) := ('C', lowered Korean.hangul.charOf?)

/-- The simplified Chinese set. -/
def hanzi : Char × (Nat → Nat → Option (List Char)) := ('A', lowered Chinese.firstSet?)

/-- The national set of Japan. -/
def national : Char × (Nat → Option Char) := ('J', fun octet => some (Japanese.national octet))

/-- Katakana of half width. -/
def katakana : Char × (Nat → Option Char) := ('I', fun octet => Japanese.halfWidth? (octet + 0x80))

/-- A set that has characters in the third place only. -/
def onlyThird (last : Char) : Char × (Nat → Option Char) := (last, fun _ => none)

/-- The Korean form. -/
def korean : Form where
  singles := []
  doubles := [hangul]
  hasShifts := true

/-- The Japanese form with the first set. -/
def japanese : Form where
  singles := [national]
  doubles := [kanji 'B', kanji '@']
  hasPrefix := true

/-- The Japanese form with both sets. -/
def japaneseBoth : Form :=
  { japanese with doubles := supplement :: japanese.doubles }

/-- The Japanese form with sets of other languages. -/
def japaneseMixed : Form where
  singles := [national, onlyThird 'A', onlyThird 'F']
  doubles := [kanji 'B', kanji '@', supplement, hangul, hanzi]
  hasThird := true
  hasPrefix := true

/-- The Japanese form with both sets and katakana of half width. -/
def japaneseNarrow : Form :=
  { japaneseBoth with singles := [national, katakana] }

/-- The Japanese form with the extended set of an edition. -/
def japaneseExtended (edition : Japanese.Edition) : Form where
  singles := []
  doubles := [kanji 'B', firstPlane (if edition == .early then 'O' else 'Q') edition, secondPlane]
  hasPrefix := true

end BooksGateway.Switched

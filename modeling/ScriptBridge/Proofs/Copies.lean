/-
This file shows that accesses to buffers are confined, and done as a whole or not at
all. A copy is made if the ranges on both of its sides lie where they must, and moves
each byte of the range and no other; otherwise it is refused, before a byte has moved.
Through a window, nothing outside of it is reached. Carried out in place, byte by byte
and in machine words, a copy comes to the same: no sum of words overflows, no byte is
looked for where there is none, and no copy stops half way.
-/

import ScriptBridge.Buffer

namespace ScriptBridge.Buffer

/-! ### Ranges -/

/-- A range passes where it ends within the size. -/
theorem checkRange_eq_ok_iff {region : Region} {offset length size : Nat} :
    checkRange region offset length size = .ok () ↔ offset + length ≤ size := by
  unfold checkRange
  by_cases beyond : size < offset
  · rw [if_pos beyond]
    exact ⟨nofun, fun fits => absurd fits (by omega)⟩
  · rw [if_neg beyond]
    by_cases long : size - offset < length
    · rw [if_pos long]
      exact ⟨nofun, fun fits => absurd fits (by omega)⟩
    · rw [if_neg long]
      exact ⟨fun _ => by omega, fun _ => rfl⟩

/-- Two checks, the second after the first, pass where both do. -/
theorem bind_eq_ok_iff {first second : Except Fault Unit} :
    (first >>= fun _ => second) = .ok () ↔ first = .ok () ∧ second = .ok () := by
  cases first with
  | error fault => exact ⟨nofun, fun both => nomatch both.1⟩
  | ok => exact ⟨fun passes => ⟨rfl, passes⟩, And.right⟩

/-- A window is made where its range lies within the buffer. -/
theorem Window.create_eq_ok {size offset length : Nat} {kind : ElementKind} {window : Window}
    (accepted : create size kind offset length = .ok window) :
    offset + length ≤ size ∧ kind.size ∣ length ∧ window = ⟨kind, offset, length⟩ := by
  unfold create at accepted
  rcases checked : checkRange .view offset length size with fault | passed
  · rw [checked] at accepted
    cases accepted
  · rw [checked] at accepted
    change (if length % kind.size != 0 then _ else _) = _ at accepted
    by_cases ragged : (length % kind.size != 0) = true
    · rw [if_pos ragged] at accepted
      cases accepted
    · rw [if_neg ragged] at accepted
      cases accepted
      have whole : length % kind.size = 0 := by simpa using ragged
      exact ⟨checkRange_eq_ok_iff.mp checked, Nat.dvd_of_mod_eq_zero whole, rfl⟩

/-! ### Copies -/

variable {source target left other run : Bytes} {start index count : Nat}

/-- What a copy leaves of its target: the bytes of the range are those of the source, all others
are as they were. -/
structure Copied (source : Bytes) (start : Nat) (target : Bytes) (index count : Nat)
    (left : Bytes) : Prop where
  size : left.size = target.size
  inside : ∀ place < count, left[index + place]? = source[start + place]?
  outside : ∀ place, place < index ∨ index + count ≤ place → left[place]? = target[place]?

namespace Copied

/-- Nothing else is left by the same copy. -/
theorem unique (copied : Copied source start target index count left)
    (too : Copied source start target index count other) : left = other := by
  refine Array.ext_getElem? fun place => ?_
  by_cases inside : index ≤ place ∧ place < index + count
  · obtain ⟨further, rfl⟩ := Nat.exists_eq_add_of_le inside.1
    rw [copied.inside further (by omega), too.inside further (by omega)]
  · rw [copied.outside place (by omega), too.outside place (by omega)]

/-- Copying nothing changes nothing. -/
theorem none (source : Bytes) (start : Nat) (target : Bytes) (index : Nat) :
    Copied source start target index 0 target :=
  ⟨rfl, fun _ below => absurd below (Nat.not_lt_zero _), fun _ _ => rfl⟩

/-- A byte replaced, and the bytes after it copied, is one byte more that is copied. -/
theorem step {byte : UInt8} (found : source[start]? = some byte) (room : index < target.size)
    (copied : Copied source (start + 1) (target.setIfInBounds index byte) (index + 1) count left) :
    Copied source start target index (count + 1) left where
  size := copied.size.trans Array.size_setIfInBounds
  inside place below := by
    cases place with
    | zero =>
      rw [Nat.add_zero, Nat.add_zero, copied.outside _ (.inl (Nat.lt_succ_self _)), found,
        Array.getElem?_setIfInBounds_self, if_pos room]
    | succ place =>
      have moved := copied.inside place (by omega)
      rwa [Nat.add_right_comm, Nat.add_right_comm start] at moved
  outside place beyond := by
    rw [copied.outside place (by omega), Array.getElem?_setIfInBounds_ne (by omega)]

/-- What was copied out of a run of bytes that was copied in is what that was copied from. -/
theorem trans {middle final : Bytes} {place spot : Nat}
    (written : Copied source start target index count middle)
    (back : Copied middle index other spot count final) (same : place = start) :
    Copied source place other spot count final where
  size := back.size
  inside further below := by rw [back.inside further below, written.inside further below, same]
  outside := back.outside

/-- What takes a whole run of bytes over all of its own is that run. -/
theorem eq_source (copied : Copied source 0 target 0 count left) (whole : source.size = count)
    (all : target.size = count) : left = source := by
  refine Array.ext_getElem? fun place => ?_
  by_cases below : place < count
  · have moved := copied.inside place below
    rwa [Nat.zero_add] at moved
  · rw [Array.getElem?_eq_none (by rw [copied.size]; omega), Array.getElem?_eq_none (by omega)]

end Copied

theorem size_splice (room : index + run.size ≤ target.size) :
    (splice target index run).size = target.size := by
  unfold splice
  rw [Array.size_append, Array.size_append, Array.size_extract, Array.size_extract]
  omega

/-- A run of bytes put in place of others is a copy. -/
theorem copied_splice (fits : start + count ≤ source.size) (room : index + count ≤ target.size) :
    Copied source start target index count
      (splice target index (source.extract start (start + count))) := by
  have taken : (source.extract start (start + count)).size = count := by
    rw [Array.size_extract]
    omega
  have before : (target.extract 0 index).size = index := by
    rw [Array.size_extract]
    omega
  refine ⟨size_splice (by omega), fun place below => ?_, fun place beyond => ?_⟩
  · unfold splice
    rw [Array.getElem?_append_left (by rw [Array.size_append]; omega),
      Array.getElem?_append_right (by omega), before, Nat.add_sub_cancel_left,
      Array.getElem?_extract, if_pos (by omega)]
  · unfold splice
    rcases beyond with low | high
    · rw [Array.getElem?_append_left (by rw [Array.size_append]; omega),
        Array.getElem?_append_left (by omega), Array.getElem?_extract, if_pos (by omega),
        Nat.zero_add]
    · have reached : index + count + (place - (index + count)) = place := by omega
      rw [Array.getElem?_append_right (by rw [Array.size_append]; omega), Array.size_append, before,
        taken, Array.getElem?_extract, reached]
      by_cases within : place < target.size
      · rw [if_pos (by omega)]
      · rw [if_neg (by omega), Array.getElem?_eq_none (by omega)]

/-- A copy that is made once its checks have passed. -/
def checkedCopy (checks : Except Fault Unit) (source : Bytes) (start : Nat) (target : Bytes)
    (index count : Nat) : Except Fault Bytes := do
  checks
  return splice target index (source.extract start (start + count))

theorem read_eq (bytes : Bytes) (offset length : Nat) (destination : Bytes) (index : Nat) :
    read bytes offset length destination index =
      checkedCopy (checkRange .buffer offset length bytes.size >>= fun _ =>
          checkRange .destination index length destination.size)
        bytes offset destination index length := by
  unfold read checkedCopy
  rw [bind_assoc]

theorem write_eq (bytes source : Bytes) (index length offset : Nat) :
    write bytes source index length offset =
      checkedCopy (checkRange .buffer offset length bytes.size >>= fun _ =>
          checkRange .source index length source.size)
        source index bytes offset length := by
  unfold write checkedCopy
  rw [bind_assoc]

theorem Window.read_eq (window : Window) (contents : Bytes) (offset length : Nat)
    (destination : Bytes) (index : Nat) :
    window.read contents offset length destination index =
      checkedCopy (checkRange .view offset length window.length >>= fun _ =>
          checkRange .buffer (window.offset + offset) length contents.size >>= fun _ =>
            checkRange .destination index length destination.size)
        contents (window.offset + offset) destination index length := by
  unfold Window.read
  rw [Buffer.read_eq]
  unfold checkedCopy
  simp only [bind_assoc]

theorem Window.write_eq (window : Window) (contents source : Bytes) (index length offset : Nat) :
    window.write contents source index length offset =
      checkedCopy (checkRange .view offset length window.length >>= fun _ =>
          checkRange .buffer (window.offset + offset) length contents.size >>= fun _ =>
            checkRange .source index length source.size)
        source index contents (window.offset + offset) length := by
  unfold Window.write
  rw [Buffer.write_eq]
  unfold checkedCopy
  simp only [bind_assoc]

/-! ### Copies in place -/

/-- What is done to bytes in place, in machine words. It comes to nothing at all where it goes
wrong: where a sum is no word, or there is no byte at a place. What fails leaves the bytes as it
has made them. -/
abbrev InPlace (Result : Type) := ExceptT Fault (StateT Bytes Option) Result

namespace InPlace

variable {Result Next : Type}

/-- What it comes to on given bytes, and the bytes that it leaves. -/
def on (work : InPlace Result) (target : Bytes) : Option (Except Fault Result × Bytes) :=
  work target

/-- What goes wrong. -/
def wrong : InPlace Result := fun _ => none

/-- The sum of two words. -/
def add (left right : Nat) : InPlace Nat :=
  if left + right < 2 ^ 64 then pure (left + right) else wrong

/-- A check that may fail. -/
def check (checked : Except Fault Result) : InPlace Result := fun target => some (checked, target)

/-- The number of the bytes. -/
def size : InPlace Nat := fun target => some (.ok target.size, target)

/-- A byte of other bytes. -/
def byteAt (source : Bytes) (place : Nat) : InPlace UInt8 :=
  match source[place]? with
  | some byte => pure byte
  | none => wrong

/-- Replaces a byte. -/
def replace (place : Nat) (byte : UInt8) : InPlace Unit := fun target =>
  if place < target.size then some (.ok (), target.setIfInBounds place byte) else none

/-- Takes a range of bytes of which there are so many. -/
def slice (first last size : Nat) : InPlace Unit :=
  if first ≤ last ∧ last ≤ size then pure () else wrong

/-- Copies bytes one after the other. -/
def copyBytes (source : Bytes) (start index : Nat) : Nat → InPlace Unit
  | 0 => pure ()
  | count + 1 => do
    replace index (← byteAt source start)
    copyBytes source (start + 1) (index + 1) count

/-- Copies a range of bytes, and tells how many they are. -/
def copy (source : Bytes) (start index count : Nat) : InPlace Nat := do
  slice index (← add index count) (← size)
  slice start (← add start count) source.size
  copyBytes source start index count
  return count

/-- A copy out of a buffer. -/
def read (bytes : Bytes) (offset length index : Nat) : InPlace Nat := do
  check (checkRange .buffer offset length bytes.size)
  check (checkRange .destination index length (← size))
  copy bytes offset index length

/-- A copy into a buffer. -/
def write (source : Bytes) (index length offset : Nat) : InPlace Nat := do
  check (checkRange .buffer offset length (← size))
  check (checkRange .source index length source.size)
  copy source index offset length

/-- A copy out of a window. -/
def readThrough (window : Window) (contents : Bytes) (offset length index : Nat) :
    InPlace Nat := do
  check (checkRange .view offset length window.length)
  read contents (← add window.offset offset) length index

/-- A copy into a window. -/
def writeThrough (window : Window) (source : Bytes) (index length offset : Nat) :
    InPlace Nat := do
  check (checkRange .view offset length window.length)
  write source index length (← add window.offset offset)

theorem on_bind (work : InPlace Result) (next : Result → InPlace Next) (target : Bytes) :
    (work >>= next).on target =
      match work.on target with
      | none => none
      | some (.ok result, left) => (next result).on left
      | some (.error fault, left) => some (.error fault, left) := by
  show ((work target).bind fun answer => ExceptT.bindCont next answer.1 answer.2) = _
  unfold on
  rcases work target with _ | ⟨fault | result, left⟩ <;> rfl

/-- What follows goes on from the bytes that are left. -/
theorem on_bind_of_ok {work : InPlace Result} {next : Result → InPlace Next} {result : Result}
    (done : work.on target = some (.ok result, left)) :
    (work >>= next).on target = (next result).on left := by
  rw [on_bind, done]

/-- What follows a check is done where it passes, on bytes that it has not touched. -/
theorem on_check_bind (checked : Except Fault Result) (next : Result → InPlace Next)
    (target : Bytes) :
    (check checked >>= next).on target =
      match checked with
      | .ok result => (next result).on target
      | .error fault => some (.error fault, target) := by
  rw [on_bind]
  show (match some (checked, target) with
    | none => none
    | some (.ok result, left) => (next result).on left
    | some (.error fault, left) => some (.error fault, left)) = _
  cases checked <;> rfl

/-- Sums below two to the 64th are words. -/
theorem on_add {first second : Nat} (word : first + second < 2 ^ 64) (target : Bytes) :
    (add first second).on target = some (.ok (first + second), target) := by
  unfold add
  rw [if_pos word]
  rfl

theorem on_slice {first last size : Nat} (ordered : first ≤ last) (within : last ≤ size)
    (target : Bytes) : (slice first last size).on target = some (.ok (), target) := by
  unfold slice
  rw [if_pos ⟨ordered, within⟩]
  rfl

/-- Bytes that there are on both sides are copied one after the other to the end. -/
theorem on_copyBytes (fits : start + count ≤ source.size) (room : index + count ≤ target.size) :
    ∃ left, (copyBytes source start index count).on target = some (.ok (), left) ∧
      Copied source start target index count left := by
  induction count generalizing start index target with
  | zero => exact ⟨target, rfl, .none source start target index⟩
  | succ count inductionHypothesis =>
    have within : start < source.size := by omega
    have below : index < target.size := by omega
    have found : source[start]? = some source[start] := Array.getElem?_eq_getElem within
    obtain ⟨left, ran, copied⟩ := @inductionHypothesis (target.setIfInBounds index source[start])
      (start + 1) (index + 1) (by omega) (by rw [Array.size_setIfInBounds]; omega)
    -- The rest of the copy leaves alone what stands before it, and so the first byte.
    refine ⟨left, ?_, copied.step found below⟩
    have taken : (byteAt source start).on target = some (.ok source[start], target) := by
      unfold byteAt
      rw [found]
      rfl
    have replaced : (replace index source[start]).on target =
        some (.ok (), target.setIfInBounds index source[start]) := if_pos below
    unfold copyBytes
    rw [on_bind_of_ok taken, on_bind_of_ok replaced, ran]

/-- A copy of ranges that there are goes right. -/
theorem on_copy (fits : start + count ≤ source.size) (room : index + count ≤ target.size)
    (small : source.size < 2 ^ 64) (roomSmall : target.size < 2 ^ 64) :
    (copy source start index count).on target =
      some (.ok count, splice target index (source.extract start (start + count))) := by
  obtain ⟨left, ran, copied⟩ := on_copyBytes fits room
  obtain rfl := copied.unique (copied_splice fits room)
  have counted : size.on target = some (.ok target.size, target) := rfl
  unfold copy
  rw [on_bind_of_ok (on_add (by omega) target), on_bind_of_ok counted,
    on_bind_of_ok (on_slice (Nat.le_add_right _ _) room target),
    on_bind_of_ok (on_add (by omega) target),
    on_bind_of_ok (on_slice (Nat.le_add_right _ _) fits target), on_bind_of_ok ran]
  rfl

/-- What is done as a whole or not at all: what is left is what a result says, and what is refused
leaves the bytes as they were. -/
def settled (answer : Result) (target : Bytes) : Except Fault Bytes → Except Fault Result × Bytes
  | .ok left => (.ok answer, left)
  | .error fault => (.error fault, target)

end InPlace

/-! ### Exact copies -/

/-- A copy that is made where the ranges fit and refused elsewhere, and comes to the same in
place. -/
structure CopiesExactly (fits : Prop) (source : Bytes) (start : Nat) (target : Bytes)
    (index count : Nat) (result : Except Fault Bytes) (work : InPlace Nat) : Prop where
  copies : fits → ∃ left, result = .ok left ∧ Copied source start target index count left
  refuses : ¬fits → ∃ fault, result = .error fault
  settles : work.on target = some (InPlace.settled count target result)

namespace CopiesExactly

variable {fits : Prop} {result : Except Fault Bytes} {work : InPlace Nat}

/-- A copy is exact whose checks are those of its ranges, in place as elsewhere. -/
theorem of_checks {checks : Except Fault Unit}
    (reads : result = checkedCopy checks source start target index count)
    (passes : checks = .ok () ↔ fits)
    (within : fits → start + count ≤ source.size ∧ index + count ≤ target.size)
    (small : source.size < 2 ^ 64) (roomSmall : target.size < 2 ^ 64)
    (works : work.on target =
      match checks with
      | .ok _ => (InPlace.copy source start index count).on target
      | .error fault => some (.error fault, target)) :
    CopiesExactly fits source start target index count result work := by
  subst reads
  rcases checks with fault | passed
  · refine ⟨fun fit => ?_, fun _ => ⟨fault, rfl⟩, works⟩
    cases passes.mpr fit
  · obtain ⟨reach, room⟩ := within (passes.mp rfl)
    refine ⟨fun _ => ⟨_, rfl, copied_splice reach room⟩, fun unfit => absurd (passes.mp rfl) unfit,
      works.trans (InPlace.on_copy reach room small roomSmall)⟩

/-- The same ranges may be said to fit in another way. -/
theorem congr {suits : Prop}
    (exact_ : CopiesExactly fits source start target index count result work)
    (same : fits ↔ suits) : CopiesExactly suits source start target index count result work :=
  ⟨fun suit => exact_.copies (same.mpr suit), fun unsuited => exact_.refuses (mt same.mp unsuited),
    exact_.settles⟩

/-- What was copied fitted. -/
theorem fits_of_ok (exact_ : CopiesExactly fits source start target index count result work)
    (made : result = .ok left) : fits := by
  refine Classical.byContradiction fun unfit => ?_
  obtain ⟨fault, refused⟩ := exact_.refuses unfit
  cases made.symm.trans refused

theorem copied (exact_ : CopiesExactly fits source start target index count result work)
    (made : result = .ok left) : Copied source start target index count left := by
  obtain ⟨reached, same, copied⟩ := exact_.copies (exact_.fits_of_ok made)
  cases made.symm.trans same
  exact copied

end CopiesExactly

section

variable {contents : Bytes} {window : Window} {kind : ElementKind} {offset length : Nat}

theorem read_copiesExactly (small : contents.size < 2 ^ 64) (roomSmall : target.size < 2 ^ 64)
    (place index count : Nat) :
    CopiesExactly (place + count ≤ contents.size ∧ index + count ≤ target.size) contents place
      target index count (read contents place count target index)
      (InPlace.read contents place count index) := by
  refine .of_checks (read_eq _ _ _ _ _) ?_ id small roomSmall ?_
  · rw [bind_eq_ok_iff, checkRange_eq_ok_iff, checkRange_eq_ok_iff]
  · have counted : InPlace.size.on target = some (.ok target.size, target) := rfl
    unfold InPlace.read
    rw [InPlace.on_check_bind]
    cases checkRange .buffer place count contents.size with
    | error fault => rfl
    | ok =>
      dsimp only
      rw [InPlace.on_bind_of_ok counted, InPlace.on_check_bind]
      cases checkRange .destination index count target.size <;> rfl

theorem write_copiesExactly (small : contents.size < 2 ^ 64) (sourceSmall : source.size < 2 ^ 64)
    (index count place : Nat) :
    CopiesExactly (place + count ≤ contents.size ∧ index + count ≤ source.size) source index
      contents place count (write contents source index count place)
      (InPlace.write source index count place) := by
  refine .of_checks (write_eq _ _ _ _ _) ?_ And.symm sourceSmall small ?_
  · rw [bind_eq_ok_iff, checkRange_eq_ok_iff, checkRange_eq_ok_iff]
  · have counted : InPlace.size.on contents = some (.ok contents.size, contents) := rfl
    unfold InPlace.write
    rw [InPlace.on_bind_of_ok counted, InPlace.on_check_bind]
    cases checkRange .buffer place count contents.size with
    | error fault => rfl
    | ok =>
      dsimp only
      rw [InPlace.on_check_bind]
      cases checkRange .source index count source.size <;> rfl

/-- Going through a window is going to the buffer, once the range is known to lie in the window. -/
theorem CopiesExactly.within {fits : Prop} {result : Except Fault Bytes}
    {work : Nat → InPlace Nat} {place : Nat} (inside : offset + length ≤ contents.size)
    (small : contents.size < 2 ^ 64)
    (exact_ : CopiesExactly (offset + place + count ≤ contents.size ∧ fits) source start target
      index count result (work (offset + place))) :
    CopiesExactly (place + count ≤ length ∧ fits) source start target index count
      (checkRange .view place count length >>= fun _ => result)
      (InPlace.check (checkRange .view place count length) >>= fun _ =>
        InPlace.add offset place >>= work) := by
  rcases checked : checkRange .view place count length with fault | passed
  · refine ⟨fun fit => ?_, fun _ => ⟨fault, rfl⟩, InPlace.on_check_bind _ _ _⟩
    cases checked.symm.trans (checkRange_eq_ok_iff.mpr fit.1)
  · have fit := checkRange_eq_ok_iff.mp checked
    refine ⟨fun both => exact_.copies ⟨by omega, both.2⟩, fun unfit => exact_.refuses ?_, ?_⟩
    · exact fun both => unfit ⟨fit, both.2⟩
    · rw [InPlace.on_check_bind]
      dsimp only
      rw [InPlace.on_bind_of_ok (InPlace.on_add (by omega) _)]
      exact exact_.settles

end

/-- A copy out of a window. -/
theorem Window.read_copiesExactly {contents : Bytes} {offset length : Nat} (kind : ElementKind)
    (inside : offset + length ≤ contents.size) (small : contents.size < 2 ^ 64)
    (roomSmall : target.size < 2 ^ 64) (place index count : Nat) :
    CopiesExactly (place + count ≤ length ∧ index + count ≤ target.size) contents (offset + place)
      target index count (read ⟨kind, offset, length⟩ contents place count target index)
      (InPlace.readThrough ⟨kind, offset, length⟩ contents place count index) :=
  (Buffer.read_copiesExactly small roomSmall (offset + place) index count).within inside small

/-- A copy into a window. -/
theorem Window.write_copiesExactly {contents : Bytes} {offset length : Nat} (kind : ElementKind)
    (inside : offset + length ≤ contents.size) (small : contents.size < 2 ^ 64)
    (sourceSmall : source.size < 2 ^ 64) (index count place : Nat) :
    CopiesExactly (place + count ≤ length ∧ index + count ≤ source.size) source index contents
      (offset + place) count (write ⟨kind, offset, length⟩ contents source index count place)
      (InPlace.writeThrough ⟨kind, offset, length⟩ source index count place) :=
  (Buffer.write_copiesExactly small sourceSmall index count (offset + place)).within inside small

/-! ### Confined accesses -/

/-- Is a run of bytes given back whole by what reads it, wherever there is room for it? -/
def GivesBack (source : Bytes) (start count : Nat)
    (reading : Bytes → Nat → Except Fault Bytes) : Prop :=
  ∀ target : Bytes, target.size < 2 ^ 64 → ∀ spot, spot + count ≤ target.size →
    ∃ back, reading target spot = .ok back ∧ Copied source start target spot count back

/-- A run of bytes that was copied into a range is given back by copies out of it. -/
theorem CopiesExactly.givesBack {contents : Bytes} {fits : Prop} {limit place start : Nat}
    {result : Except Fault Bytes} {reading : Bytes → Nat → Except Fault Bytes}
    {work : InPlace Nat} {back : Nat → InPlace Nat}
    (writing : CopiesExactly (place + count ≤ limit ∧ fits) source index contents start count
      result work)
    (reads : left.size = contents.size → ∀ target : Bytes, target.size < 2 ^ 64 → ∀ spot,
      CopiesExactly (place + count ≤ limit ∧ spot + count ≤ target.size) left start target spot
        count (reading target spot) (back spot))
    (written : result = .ok left) : GivesBack source index count reading := by
  intro target targetSmall spot room
  have copied := writing.copied written
  have within := (writing.fits_of_ok written).1
  obtain ⟨final, given, copiedBack⟩ :=
    (reads copied.size target targetSmall spot).copies ⟨within, room⟩
  exact ⟨final, given, copied.trans copiedBack rfl⟩

theorem givesBack {contents : Bytes} (small : contents.size < 2 ^ 64)
    (sourceSmall : source.size < 2 ^ 64) {place : Nat}
    (written : write contents source index count place = .ok left) :
    GivesBack source index count fun target spot => read left place count target spot :=
  (write_copiesExactly small sourceSmall index count place).givesBack
    (fun same _ targetSmall spot =>
      same ▸ read_copiesExactly (same ▸ small) targetSmall place spot count) written

theorem Window.givesBack {contents : Bytes} {kind : ElementKind} {offset length : Nat}
    (inside : offset + length ≤ contents.size) (small : contents.size < 2 ^ 64)
    (sourceSmall : source.size < 2 ^ 64) {place : Nat}
    (written : write ⟨kind, offset, length⟩ contents source index count place = .ok left) :
    GivesBack source index count fun target spot =>
      read ⟨kind, offset, length⟩ left place count target spot :=
  (write_copiesExactly kind inside small sourceSmall index count place).givesBack
    (fun same _ targetSmall spot => read_copiesExactly kind (same ▸ inside) (same ▸ small)
      targetSmall place spot count) written

/-- A copy out of a buffer or into it, or out of a window or into it, is made exactly if the ranges
on both sides fit, and through a window if its range lies in the window; it moves the bytes of the
range and no others, and is refused elsewhere. In place, and in machine words, nothing goes wrong,
and what is refused changes nothing. What is written through a window stays in it, and what is
written is read back. -/
theorem accesses_are_confined {contents : Bytes} {window : Window} {kind : ElementKind}
    {offset length : Nat}
    (accepted : Window.create contents.size kind offset length = .ok window) (other : Bytes)
    (small : contents.size < 2 ^ 64) (otherSmall : other.size < 2 ^ 64) (place index count : Nat) :
    CopiesExactly (place + count ≤ contents.size ∧ index + count ≤ other.size)
        contents place other index count (read contents place count other index)
        (InPlace.read contents place count index) ∧
      CopiesExactly (place + count ≤ contents.size ∧ index + count ≤ other.size)
        other index contents place count (write contents other index count place)
        (InPlace.write other index count place) ∧
      CopiesExactly (place + count ≤ length ∧ index + count ≤ other.size)
        contents (offset + place) other index count (window.read contents place count other index)
        (InPlace.readThrough window contents place count index) ∧
      CopiesExactly (place + count ≤ length ∧ index + count ≤ other.size)
        other index contents (offset + place) count
        (window.write contents other index count place)
        (InPlace.writeThrough window other index count place) ∧
      (∀ left, write contents other index count place = .ok left →
        GivesBack other index count fun target spot => read left place count target spot) ∧
      ∀ left, window.write contents other index count place = .ok left →
        (∀ spot, spot < offset ∨ offset + length ≤ spot → left[spot]? = contents[spot]?) ∧
        Window.create left.size kind offset length = .ok window ∧
        GivesBack other index count fun target spot =>
          window.read left place count target spot := by
  obtain ⟨inside, -, rfl⟩ := Window.create_eq_ok accepted
  have writingThrough :=
    Window.write_copiesExactly kind inside small otherSmall index count place
  refine ⟨read_copiesExactly small otherSmall place index count,
    write_copiesExactly small otherSmall index count place,
    Window.read_copiesExactly kind inside small otherSmall place index count, writingThrough,
    fun left written => givesBack small otherSmall written, fun left written => ?_⟩
  have copied := writingThrough.copied written
  have fits := (writingThrough.fits_of_ok written).1
  exact ⟨fun spot beyond => copied.outside spot (by omega), copied.size ▸ accepted,
    Window.givesBack inside small otherSmall written⟩

/-- A window onto the middle of a buffer takes two bytes up to its very end, and gives them back;
one byte more, or the same from one place further on, is refused. -/
theorem accesses_are_confined_of_window :
    let contents : Bytes := #[0, 1, 2, 3, 4, 5, 6, 7]
    let window : Window := ⟨.uint8, 2, 4⟩
    Window.create contents.size .uint8 2 4 = .ok window ∧
      window.write contents #[9, 8, 7] 1 2 2 = .ok #[0, 1, 2, 3, 8, 7, 6, 7] ∧
      (∃ fault, window.write contents #[9, 8, 7] 0 3 2 = .error fault) ∧
      ∃ fault, window.write contents #[9, 8, 7] 1 2 3 = .error fault := by
  intro contents window
  have accepted : Window.create contents.size .uint8 2 4 = .ok window := rfl
  have confined := accesses_are_confined accepted #[9, 8, 7] (by decide) (by decide)
  refine ⟨accepted, ?_, (confined 2 0 3).2.2.2.1.refuses (by decide),
    (confined 3 1 2).2.2.2.1.refuses (by decide)⟩
  obtain ⟨left, written, -⟩ := (confined 2 1 2).2.2.2.1.copies (by decide)
  rw [written]
  exact written.symm

end ScriptBridge.Buffer

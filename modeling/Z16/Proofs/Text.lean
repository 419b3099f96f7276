import Mathlib.Data.List.DropRight
import Z16.Proofs.Text.Pieces
import Z16.Text

namespace Z16.Text

structure IsStripped (text stripped : List Char) : Prop where
  around : ∃ front back, text = front ++ stripped ++ back ∧
    (∀ c ∈ front, isBlank c = true) ∧ ∀ c ∈ back, isBlank c = true
  begins : Stops isBlank stripped
  ends : Stops isBlank stripped.reverse

variable {α : Type} {p : α → Bool}

theorem stops_dropWhile (l : List α) : Stops p (l.dropWhile p) := by
  intro a first
  have stop := List.head?_dropWhile_not p l
  rwa [Option.mem_def.1 first] at stop

theorem stops_left {piece rest : List α} (stops : Stops p (piece ++ rest)) : Stops p piece := by
  intro a first
  apply stops
  rw [List.head?_append, Option.mem_def.1 first]
  rfl

theorem isStripped_strip (text : List Char) : IsStripped text (strip text) := by
  have right : strip text ++ (text.dropWhile isBlank).rtakeWhile isBlank = text.dropWhile isBlank :=
    List.rdropWhile_append_rtakeWhile
  constructor
  · refine ⟨text.takeWhile isBlank, (text.dropWhile isBlank).rtakeWhile isBlank, ?_, ?_, ?_⟩
    · rw [List.append_assoc, right, List.takeWhile_append_dropWhile]
    · exact fun c mem => List.mem_takeWhile_imp mem
    · exact fun c mem => List.mem_rtakeWhile_imp mem
  · apply stops_left
    rw [right]
    exact stops_dropWhile text
  · rw [strip, List.reverse_reverse]
    exact stops_dropWhile _

theorem utf8DecodeChar?_append (front rest : ByteArray) (c : Char) :
    (front ++ ([c].utf8Encode ++ rest)).utf8DecodeChar? front.size = some c := by
  rw [ByteArray.utf8DecodeChar?_eq_utf8DecodeChar?_extract, ByteArray.size_append,
    ByteArray.extract_append_eq_right rfl rfl, List.utf8DecodeChar?_utf8Encode_singleton_append]

theorem size_utf8Encode_singleton (c : Char) : [c].utf8Encode.size = c.utf8Size := by
  rw [List.utf8Encode_singleton, List.size_toByteArray, String.length_utf8EncodeChar]

theorem decodeFrom_append (front : ByteArray) (cs : List Char) (done : String) :
    decodeFrom (front ++ cs.utf8Encode) front.size done = done ++ String.ofList cs := by
  -- Each character that is read moves from the rest to the front.
  induction cs generalizing front done with
  | nil => rw [decodeFrom]; simp
  | cons c cs ih =>
    have moved : front ++ (c :: cs).utf8Encode = (front ++ [c].utf8Encode) ++ cs.utf8Encode := by
      rw [List.utf8Encode_cons, ByteArray.append_assoc]
    have size : (front ++ [c].utf8Encode).size = front.size + c.utf8Size := by
      rw [ByteArray.size_append, size_utf8Encode_singleton]
    have inside : front.size < (front ++ (c :: cs).utf8Encode).size := by
      have := c.utf8Size_pos
      rw [moved, ByteArray.size_append, size]
      omega
    have next : (front ++ (c :: cs).utf8Encode).utf8DecodeChar? front.size = some c := by
      rw [List.utf8Encode_cons, utf8DecodeChar?_append]
    rw [decodeFrom, if_pos inside, next]
    show decodeFrom _ (front.size + c.utf8Size) (done.push c) = _
    rw [moved, ← size, ih]
    apply String.toList_inj.1
    simp

theorem decodeUtf8_toByteArray (s : String) : decodeUtf8 s.toByteArray.data.toList = s := by
  have bytes : s.toByteArray.data.toList.toByteArray = ByteArray.empty ++ s.toList.utf8Encode := by
    rw [ByteArray.empty_append, String.utf8Encode_toList]
    apply ByteArray.ext
    simp
  rw [decodeUtf8, bytes]
  exact (decodeFrom_append .empty s.toList "").trans (by simp)

theorem zero_ne_ofNat {n : Nat} (low : 128 ≤ n) (high : n < 256) : (0 : UInt8) ≠ .ofNat n := by
  intro zero
  have same : 0 = n % 256 := congrArg UInt8.toNat zero
  omega

theorem eq_zero_of_mem_utf8EncodeChar {c : Char} (mem : 0 ∈ String.utf8EncodeChar c) : c = '\x00' := by
  revert mem
  fun_cases String.utf8EncodeChar c with
  | case1 v small =>
    intro mem
    have same : (0 : UInt8) = .ofNat v := List.mem_singleton.1 mem
    have zero : 0 = v % 256 := congrArg UInt8.toNat same
    have none : c.toNat = 0 := by
      show v = 0
      omega
    exact Char.toNat_inj.1 none
  | case2 | case3 | case4 =>
    -- All bytes of a longer sequence are at least 128.
    intro mem
    simp (disch := omega) only [List.mem_cons, List.not_mem_nil, or_false, zero_ne_ofNat] at mem

theorem toByteArray_toList (s : String) :
    s.toByteArray.data.toList = s.toList.flatMap String.utf8EncodeChar := by
  rw [← String.utf8Encode_toList, List.utf8Encode]
  simp

theorem zero_notMem_toByteArray {s : String} (text : '\x00' ∉ s.toList) :
    0 ∉ s.toByteArray.data.toList := by
  rw [toByteArray_toList, List.mem_flatMap]
  rintro ⟨c, mem, zero⟩
  exact text (eq_zero_of_mem_utf8EncodeChar zero ▸ mem)

end Z16.Text

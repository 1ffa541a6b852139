import Mathlib.Algebra.Group.Nat.Defs
import Mathlib.Tactic.SplitIfs
import StarQuery.Proofs.Value.Order

/-!
What a hasher is given of values, byte by byte. Main statements: a value can be told from its bytes,
whatever bytes come behind them, so that values have the same bytes only if they are equal.
-/
namespace StarQuery.Value

def lowBytes : Nat → Nat → List UInt8
  | 0, _ => []
  | n + 1, w => UInt8.ofNat w :: lowBytes n (w / 256)

/-- A kind and a truth value are one byte each, a word is eight, and a text is its bytes in UTF-8
with a byte behind them that no text has. -/
def HashItem.bytes : HashItem → List UInt8
  | .kind rank => [UInt8.ofNat rank]
  | .flag b => [b.toUInt8]
  | .word w => lowBytes 8 w.toNat
  | .chars s => s.toUTF8.data.toList ++ [0xff]

def hashBytes (v : Value) : List UInt8 := v.hashItems.flatMap HashItem.bytes

def listBytes (vs : List Value) : List UInt8 := lowBytes 8 vs.length ++ vs.flatMap hashBytes

theorem lowBytes_append_inj {n v w : Nat} {r s : List UInt8}
    (same : lowBytes n v ++ r = lowBytes n w ++ s) : v % 256 ^ n = w % 256 ^ n ∧ r = s := by
  induction n generalizing v w with
  | zero => exact ⟨by simp [Nat.mod_one], same⟩
  | succ n ih =>
    obtain ⟨low, high⟩ := List.cons.inj same
    obtain ⟨high, rest⟩ := ih high
    have low : v % 256 = w % 256 := by simpa using congrArg UInt8.toNat low
    rw [Nat.pow_succ', Nat.mod_mul, Nat.mod_mul, low, high]
    exact ⟨rfl, rest⟩

theorem utf8EncodeChar_ne (c : Char) : 0xff ∉ String.utf8EncodeChar c := by
  intro member
  obtain ⟨b, byte, member⟩ : ∃ b : UInt8, b.toNat = 255 ∧ b ∈ String.utf8EncodeChar c :=
    ⟨0xff, rfl, member⟩
  have bound : c.val.toNat < 0x110000 := by
    rcases c.valid with low | high
    · exact Nat.lt_trans low (by decide)
    · exact high.2
  unfold String.utf8EncodeChar at member
  generalize c.val.toNat = v at bound member
  dsimp only at member
  split_ifs at member
  all_goals
    simp only [List.mem_cons, List.not_mem_nil, or_false] at member
    rcases member with rfl | rfl | rfl | rfl
    all_goals
      rw [UInt8.toNat_ofNat'] at byte
      omega

theorem not_mem_utf8 (s : String) : 0xff ∉ s.toUTF8.data.toList := by
  rw [String.toUTF8, ← String.utf8Encode_toList, List.utf8Encode, List.toList_data_toByteArray,
    List.mem_flatMap]
  rintro ⟨c, -, member⟩
  exact utf8EncodeChar_ne c member

theorem utf8_injective {s t : String}
    (same : s.toUTF8.data.toList = t.toUTF8.data.toList) : s = t := by
  rw [← String.toByteArray_inj]
  exact ByteArray.ext (Array.toList_inj.mp same)

theorem flag_injective : ∀ p q : Bool, p.toUInt8 = q.toUInt8 → p = q := by
  decide

theorem word_append_inj {v w : UInt64} {r s : List UInt8}
    (same : (HashItem.word v).bytes ++ r = (HashItem.word w).bytes ++ s) : v = w ∧ r = s := by
  obtain ⟨word, rest⟩ := lowBytes_append_inj same
  have hv := v.toNat_lt
  have hw := w.toNat_lt
  refine ⟨UInt64.toNat_inj.mp ?_, rest⟩
  omega

theorem append_mark_inj {mark : UInt8} {t u r s : List UInt8} (free : mark ∉ t) (free' : mark ∉ u)
    (same : t ++ mark :: r = u ++ mark :: s) : t = u ∧ r = s := by
  induction t generalizing u with
  | nil =>
    cases u with
    | nil => exact ⟨rfl, (List.cons.inj same).2⟩
    | cons b u => exact absurd ((List.cons.inj same).1 ▸ List.mem_cons_self) free'
  | cons a t ih =>
    cases u with
    | nil => exact absurd ((List.cons.inj same).1 ▸ List.mem_cons_self) free
    | cons b u =>
      obtain ⟨rfl, later⟩ := List.cons.inj same
      rw [List.mem_cons, not_or] at free free'
      obtain ⟨rfl, rest⟩ := ih free.2 free'.2 later
      exact ⟨rfl, rest⟩

theorem chars_append_inj {t u : String} {r s : List UInt8}
    (same : (HashItem.chars t).bytes ++ r = (HashItem.chars u).bytes ++ s) : t = u ∧ r = s := by
  rw [HashItem.bytes, HashItem.bytes, List.append_assoc, List.append_assoc,
    List.singleton_append, List.singleton_append] at same
  obtain ⟨text, rest⟩ := append_mark_inj (not_mem_utf8 t) (not_mem_utf8 u) same
  exact ⟨utf8_injective text, rest⟩

theorem hashBytes_eq (v : Value) :
    v.hashBytes = UInt8.ofNat v.rank :: v.hashItems.tail.flatMap HashItem.bytes := by
  cases v <;> rfl

theorem rank_lt (v : Value) : v.rank < 5 := by
  cases v <;> simp [rank]

/-- The bytes of a value tell it, and where they end. -/
theorem hashBytes_append_inj {a b : Value} {r s : List UInt8}
    (same : a.hashBytes ++ r = b.hashBytes ++ s) : a = b ∧ r = s := by
  rw [hashBytes_eq, hashBytes_eq, List.cons_append, List.cons_append] at same
  obtain ⟨first, contents⟩ := List.cons.inj same
  have kind : a.rank = b.rank := by
    have ha := a.rank_lt
    have hb := b.rank_lt
    have bytes : a.rank % 256 = b.rank % 256 := by simpa using congrArg UInt8.toNat first
    omega
  cases a <;> cases b
  case null.null => exact ⟨rfl, contents⟩
  case bool.bool p q =>
    obtain ⟨flag, rest⟩ := List.cons.inj contents
    exact ⟨congrArg bool (flag_injective p q flag), rest⟩
  case int.int n m =>
    obtain ⟨word, rest⟩ := word_append_inj contents
    exact ⟨congrArg (fun w => int w.toInt64) word, rest⟩
  case float.float x y =>
    obtain ⟨word, rest⟩ := word_append_inj contents
    exact ⟨congrArg (fun w => float ⟨w⟩) word, rest⟩
  case text.text t u =>
    simp only [hashItems, List.tail_cons, List.flatMap_singleton] at contents
    obtain ⟨text, rest⟩ := chars_append_inj contents
    exact ⟨congrArg Value.text text, rest⟩
  all_goals cases kind

theorem hashBytes_eq_iff {a b : Value} : a.hashBytes = b.hashBytes ↔ a = b := by
  refine ⟨fun same => ?_, congrArg hashBytes⟩
  exact (hashBytes_append_inj (r := []) (s := []) (by rw [same])).1

end StarQuery.Value

import Sift.Executor.Event
import Mathlib.Data.List.Basic

/-!
# Where logged text is cut

`clip` goes through a text from its front, character by character, as long as the bytes suffice. The
cut can be found without looking at the front: go from the limit towards the front, byte by byte, to
the first place where a character ends, `cutBefore`, and take the bytes up to there, `front?`. This
is `clipBack?`. It always has a result, since no character has more than four bytes and so the
search stops after three steps at most, and the result is that of `clip`. What a limit leaves of a
text is `Clipped`; the main result is `clip_outcome`.
-/
namespace Sift

/-! ## Searching from the limit -/

/-- A character of the text ends at this byte, or the text begins there. -/
def isBoundary (text : String) (i : ℕ) : Bool := String.Pos.Raw.isValid text ⟨i⟩

/-- The first boundary on the way from a byte towards the front of a text. -/
def cutBefore (text : String) : ℕ → ℕ
  | 0 => 0
  | i + 1 => if isBoundary text (i + 1) then i + 1 else cutBefore text i

/-- The first bytes of a text as a text. There is none if the text is shorter, or if a character
does not end with them. -/
def front? (text : String) (n : ℕ) : Option String :=
  if n ≤ text.utf8ByteSize then String.fromUTF8? (text.toUTF8.extract 0 n) else none

/-- A text cut at the last boundary within the limit, with dots where it was cut. -/
def clipBack? (limit : Option ℕ) (text : String) : Option String :=
  match limit with
  | none => some text
  | some n =>
    if text.utf8ByteSize ≤ n then some text
    else (front? text (cutBefore text n)).map (· ++ "...")

/-- What a limit leaves of a text: the text itself if there is no limit or it is not reached, else a
beginning of the text with dots behind it. The search passes at most three bytes, none of them a
boundary, before it stops at the end of that beginning. No longer beginning is within the limit. -/
inductive Clipped (text : String) : Option ℕ → String → Prop
  | unlimited : Clipped text none text
  | short {limit : ℕ} (fits : text.utf8ByteSize ≤ limit) : Clipped text (some limit) text
  | cut {limit steps : ℕ} {front rest : String} (long : limit < text.utf8ByteSize)
      (split : text = front ++ rest) (few : steps ≤ 3) (stop : front.utf8ByteSize + steps = limit)
      (passed : ∀ i < steps, isBoundary text (limit - i) = false)
      (boundary : isBoundary text front.utf8ByteSize = true)
      (longest : ∀ other more, text = other ++ more → other.utf8ByteSize ≤ limit →
        other.utf8ByteSize ≤ front.utf8ByteSize) :
      Clipped text (some limit) (front ++ "...")

section Boundary

variable {text : String} {i n b : ℕ}

/-- A boundary parts a text in two. -/
theorem isBoundary_iff :
    isBoundary text i = true ↔ ∃ front rest, text = front ++ rest ∧ front.utf8ByteSize = i := by
  rw [isBoundary, String.Pos.Raw.isValid_eq_true_iff, String.Pos.Raw.isValid_iff_exists_append]
  simp [String.Pos.Raw.ext_iff, eq_comm]

/-- The search stops at the last boundary that is not behind its start. -/
theorem cutBefore_eq (hb : isBoundary text b = true) (hle : b ≤ n)
    (hlast : ∀ i, b < i → i ≤ n → isBoundary text i = false) : cutBefore text n = b := by
  induction n with
  | zero => exact (Nat.le_zero.1 hle).symm
  | succ n ih =>
    rw [cutBefore]
    rcases Nat.lt_or_eq_of_le hle with hlt | rfl
    · have hnext : isBoundary text (n + 1) = false := hlast (n + 1) hlt (Nat.le_refl _)
      rw [hnext, if_neg Bool.false_ne_true]
      exact ih (Nat.le_of_lt_succ hlt) fun i hi hin => hlast i hi (Nat.le_succ_of_le hin)
    · rw [if_pos hb]

/-- The bytes in front of a boundary are a text. -/
theorem front?_append (front rest : String) :
    front? (front ++ rest) front.utf8ByteSize = some front := by
  have hbytes : (front ++ rest).toUTF8.extract 0 front.utf8ByteSize = front.toByteArray := by
    simp [ByteArray.extract_append_eq_left]
  rw [front?, if_pos (by simp), hbytes, String.fromUTF8?, dif_pos front.isValidUTF8]
  rfl

end Boundary

/-! ## Counting from the front -/

section TakeBytes

variable {limit : ℕ} {cs front : List Char}

/-- Each character brings its own bytes. -/
theorem utf8ByteSize_ofList_cons (c : Char) (cs : List Char) :
    (String.ofList (c :: cs)).utf8ByteSize = c.utf8Size + (String.ofList cs).utf8ByteSize := by
  simp

theorem utf8ByteSize_takeBytes_le (limit : ℕ) (cs : List Char) :
    (String.ofList (takeBytes limit cs)).utf8ByteSize ≤ limit := by
  induction cs generalizing limit with
  | nil => simp
  | cons c rest ih =>
    rw [takeBytes]
    split
    next hfits =>
      have hrest := ih (limit - c.utf8Size)
      rw [utf8ByteSize_ofList_cons]
      omega
    next => simp

/-- A beginning within the limit is no longer than what is taken. -/
theorem isPrefix_takeBytes (hfront : front <+: cs)
    (hsize : (String.ofList front).utf8ByteSize ≤ limit) : front <+: takeBytes limit cs := by
  induction cs generalizing limit front with
  | nil => simpa using hfront
  | cons c rest ih =>
    cases front with
    | nil => exact List.nil_prefix
    | cons d front =>
      obtain ⟨rfl, hrest⟩ := List.cons_prefix_cons.1 hfront
      rw [utf8ByteSize_ofList_cons] at hsize
      rw [takeBytes, if_pos (by omega)]
      exact List.cons_prefix_cons.2 ⟨rfl, ih hrest (by omega)⟩

/-- If not all is taken, fewer than four bytes are left to the limit: the next character has no more
than four and does not fit. -/
theorem lt_utf8ByteSize_takeBytes (hlong : limit < (String.ofList cs).utf8ByteSize) :
    limit < (String.ofList (takeBytes limit cs)).utf8ByteSize + 4 := by
  induction cs generalizing limit with
  | nil => simp at hlong
  | cons c rest ih =>
    rw [utf8ByteSize_ofList_cons] at hlong
    rw [takeBytes]
    split
    next hfits =>
      have hrest := @ih (limit - c.utf8Size) (by omega)
      rw [utf8ByteSize_ofList_cons]
      omega
    next hover =>
      have hsize := c.utf8Size_le_four
      omega

end TakeBytes

/-! ## The cut -/

section Cut

variable {text : String} {limit : ℕ}

/-- The beginning of a text that `clip` keeps if it cuts. -/
def keptFront (limit : ℕ) (text : String) : String := String.ofList (takeBytes limit text.toList)

theorem exists_eq_keptFront_append (limit : ℕ) (text : String) :
    ∃ rest, text = keptFront limit text ++ rest := by
  obtain ⟨rest, hrest⟩ := takeBytes_begins limit text.toList
  refine ⟨String.ofList rest, ?_⟩
  rw [keptFront, ← String.ofList_append, hrest, String.ofList_toList]

theorem utf8ByteSize_keptFront_le (limit : ℕ) (text : String) :
    (keptFront limit text).utf8ByteSize ≤ limit :=
  utf8ByteSize_takeBytes_le limit text.toList

theorem lt_utf8ByteSize_keptFront (hlong : limit < text.utf8ByteSize) :
    limit < (keptFront limit text).utf8ByteSize + 4 := by
  refine lt_utf8ByteSize_takeBytes ?_
  rwa [String.ofList_toList]

/-- No longer beginning is within the limit. -/
theorem utf8ByteSize_le_keptFront {other more : String} (hsplit : text = other ++ more)
    (hsize : other.utf8ByteSize ≤ limit) :
    other.utf8ByteSize ≤ (keptFront limit text).utf8ByteSize := by
  have hprefix : other.toList <+: takeBytes limit text.toList := by
    refine isPrefix_takeBytes ⟨more.toList, ?_⟩ (by rwa [String.ofList_toList])
    rw [hsplit, String.toList_append]
  obtain ⟨behind, hbehind⟩ := hprefix
  rw [keptFront, ← hbehind, String.ofList_append, String.utf8ByteSize_append, String.ofList_toList]
  omega

theorem isBoundary_keptFront (limit : ℕ) (text : String) :
    isBoundary text (keptFront limit text).utf8ByteSize = true := by
  obtain ⟨rest, hrest⟩ := exists_eq_keptFront_append limit text
  exact isBoundary_iff.2 ⟨keptFront limit text, rest, hrest, rfl⟩

/-- Between what is kept and the limit there is no boundary. -/
theorem isBoundary_eq_false {i : ℕ} (hi : (keptFront limit text).utf8ByteSize < i)
    (hle : i ≤ limit) : isBoundary text i = false := by
  rw [← Bool.not_eq_true, isBoundary_iff]
  rintro ⟨front, rest, hsplit, rfl⟩
  have hlongest := utf8ByteSize_le_keptFront hsplit hle
  omega

theorem clipped_keptFront (hlong : limit < text.utf8ByteSize) :
    Clipped text (some limit) (keptFront limit text ++ "...") := by
  obtain ⟨rest, hrest⟩ := exists_eq_keptFront_append limit text
  have hwithin := utf8ByteSize_keptFront_le limit text
  have hnear := lt_utf8ByteSize_keptFront hlong
  obtain ⟨steps, hstop⟩ : ∃ steps, (keptFront limit text).utf8ByteSize + steps = limit :=
    ⟨limit - (keptFront limit text).utf8ByteSize, by omega⟩
  have hpassed : ∀ i < steps, isBoundary text (limit - i) = false := by
    intro i hi
    have hbehind : (keptFront limit text).utf8ByteSize < limit - i := by omega
    exact isBoundary_eq_false hbehind (Nat.sub_le limit i)
  exact .cut hlong hrest (by omega) hstop hpassed (isBoundary_keptFront limit text)
    fun other more => utf8ByteSize_le_keptFront

/-- The search from the limit ends where the characters that fit end. -/
theorem front?_cutBefore (limit : ℕ) (text : String) :
    front? text (cutBefore text limit) = some (keptFront limit text) := by
  obtain ⟨rest, hrest⟩ := exists_eq_keptFront_append limit text
  have hcut : cutBefore text limit = (keptFront limit text).utf8ByteSize :=
    cutBefore_eq (isBoundary_keptFront limit text) (utf8ByteSize_keptFront_le limit text)
      fun i => isBoundary_eq_false
  have hfront := front?_append (keptFront limit text) rest
  rw [← hrest] at hfront
  rw [hcut, hfront]

end Cut

/-- Cutting a text leaves what the limit leaves of it, and going back from the limit finds the same
cut in every text. -/
theorem clip_outcome (limit : Option ℕ) (text : String) :
    Clipped text limit (clip limit text) ∧ clipBack? limit text = some (clip limit text) := by
  cases limit with
  | none => exact ⟨.unlimited, rfl⟩
  | some limit =>
    rw [clip, clipBack?]
    by_cases hfits : text.utf8ByteSize ≤ limit
    · rw [if_pos hfits, if_pos hfits]
      exact ⟨.short hfits, rfl⟩
    · rw [if_neg hfits, if_neg hfits, front?_cutBefore]
      exact ⟨clipped_keptFront (Nat.lt_of_not_le hfits), rfl⟩

example : clip (some 2) "héllo" = "h..." := by decide

example : clip (some 0) "é" = "..." := by decide

end Sift

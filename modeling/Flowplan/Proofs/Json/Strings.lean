import Flowplan.Json.Reader
import Flowplan.Json.Writer
import Flowplan.Proofs.Outcome
import Flowplan.Proofs.Text.Halves

namespace Flowplan.Json

open Text (Half Point)

theorem hexValue?_hexDigit : ∀ digit < 16, hexValue? (Text.hexDigit digit) = some digit := by
  decide

theorem codeUnit_eq (code : Nat) :
    codeUnit code = ['\\', 'u', Text.hexDigit (code / 4096 % 16), Text.hexDigit (code / 256 % 16),
      Text.hexDigit (code / 16 % 16), Text.hexDigit (code % 16)] := by
  simp [codeUnit, Text.hexDigits, List.range_succ]

theorem hexCode?_hexDigit {code : Nat} (hc : code < 65536) :
    hexCode? (Text.hexDigit (code / 4096 % 16)) (Text.hexDigit (code / 256 % 16))
      (Text.hexDigit (code / 16 % 16)) (Text.hexDigit (code % 16)) = some code := by
  unfold hexCode?
  have hdigit : ∀ n, hexValue? (Text.hexDigit (n % 16)) = some (n % 16) := fun n =>
    hexValue?_hexDigit _ (Nat.mod_lt _ (by decide))
  simp only [hdigit]
  simp
  omega

/-- No unit of a low half begins the text, nor does one that cannot be read. -/
def Separates (chars : List Char) : Prop :=
  ∀ a b c d next rest, chars = '\\' :: 'u' :: a :: b :: c :: d :: next :: rest →
    ∃ code, hexCode? a b c d = some code ∧ isLowSurrogate code = false

theorem separates_of_head {c : Char} (h : c ≠ '\\') (rest : List Char) :
    Separates (c :: rest) :=
  fun _ _ _ _ _ _ he => absurd (List.cons.inj he).1 h

theorem separates_short {mark : Char} (h : mark ≠ 'u') (rest : List Char) :
    Separates ('\\' :: mark :: rest) :=
  fun _ _ _ _ _ _ he => absurd (List.cons.inj (List.cons.inj he).2).1 h

theorem separates_codeUnit {code : Nat} (hc : code < 65536) (hl : isLowSurrogate code = false)
    (rest : List Char) : Separates (codeUnit code ++ rest) := by
  intro a b c d next more he
  rw [codeUnit_eq] at he
  simp only [List.cons_append, List.cons.injEq, true_and] at he
  obtain ⟨rfl, rfl, rfl, rfl, -⟩ := he
  exact ⟨code, hexCode?_hexDigit hc, hl⟩

/-- A unit that begins no pair stands for its own point. -/
theorem readString_unit (start : Nat) {code : Nat} (hc : code < 65536) (next : Char)
    (rest : List Char) (h : isHighSurrogate code = false ∨ Separates (next :: rest)) :
    readString start (codeUnit code ++ next :: rest)
      = (readString start (next :: rest)).map fun (text, rest) =>
        (.ofUnit code :: text, rest) := by
  rw [codeUnit_eq]
  simp only [List.cons_append, List.nil_append]
  rw [readString.eq_def]
  simp only [hexCode?_hexDigit hc]
  split
  next hhigh =>
    obtain ⟨low, hlow, hl⟩ :=
      h.resolve_left (by simp [hhigh]) _ _ _ _ _ _ rfl
    simp [hlow, hl]
  next => rfl

theorem readString_pair (start : Nat) {high low : Nat} (hh : isHighSurrogate high = true)
    (hl : isLowSurrogate low = true) (next : Char) (rest : List Char) :
    readString start (codeUnit high ++ codeUnit low ++ next :: rest)
      = (readString start (next :: rest)).map
        fun (text, rest) => (.char (charOfPair high low) :: text, rest) := by
  have hhigh : high < 65536 := by
    simp [isHighSurrogate] at hh
    omega
  have hlow : low < 65536 := by
    simp [isLowSurrogate] at hl
    omega
  rw [codeUnit_eq, codeUnit_eq]
  simp only [List.cons_append, List.nil_append]
  rw [readString.eq_def]
  simp only [hexCode?_hexDigit hhigh, hexCode?_hexDigit hlow, hh, hl, if_true]

theorem readString_short (start : Nat) {mark c : Char} (hm : escaped? mark = some c)
    (hu : mark ≠ 'u') (rest : List Char) :
    readString start ('\\' :: mark :: rest)
      = (readString start rest).map fun (text, rest) => (.char c :: text, rest) := by
  rw [readString.eq_def]
  split <;> simp_all
  next _ hbackslash _ he => exact absurd he.2.symm (hbackslash _ _ he.1.symm)

theorem readString_plain (start : Nat) {c : Char} (hq : c ≠ '"') (hb : c ≠ '\\')
    (hc : 0x1F < c.toNat) (rest : List Char) :
    readString start (c :: rest)
      = (readString start rest).map fun (text, rest) => (.char c :: text, rest) := by
  rw [readString.eq_def]
  split <;> simp_all [Nat.not_le_of_lt]

theorem not_surrogate (c : Char) :
    isHighSurrogate c.toNat = false ∧ isLowSurrogate c.toNat = false := by
  have hv : c.toNat < 0xD800 ∨ 0xDFFF < c.toNat ∧ c.toNat < 0x110000 := c.valid
  simp only [isHighSurrogate, isLowSurrogate, Bool.and_eq_false_iff, decide_eq_false_iff_not]
  omega

theorem ofUnit_toNat (c : Char) : Point.ofUnit c.toNat = .char c := by
  have hv : c.toNat < 0xD800 ∨ 0xDFFF < c.toNat ∧ c.toNat < 0x110000 := c.valid
  rw [Point.ofUnit, dif_neg (by omega), Char.ofNat_toNat]

/-- How a character is written: with a mark, as itself, as its unit, or as two units. -/
theorem escapeChar_cases (c : Char) :
    (∃ mark, escapeChar c = ['\\', mark] ∧ escaped? mark = some c ∧ mark ≠ 'u') ∨
      (escapeChar c = [c] ∧ c ≠ '"' ∧ c ≠ '\\' ∧ 0x1F < c.toNat) ∨
      (escapeChar c = codeUnit c.toNat ∧ c.toNat < 0x10000) ∨
      (escapeChar c = codeUnit (0xD800 + (c.toNat - 0x10000) / 0x400)
          ++ codeUnit (0xDC00 + (c.toNat - 0x10000) % 0x400) ∧ 0x10000 ≤ c.toNat) := by
  have hmarked : ∀ mark, escapeChar c = ['\\', mark] → escaped? mark = some c → mark ≠ 'u' →
      ∃ mark, escapeChar c = ['\\', mark] ∧ escaped? mark = some c ∧ mark ≠ 'u' :=
    fun mark hmark hescaped hu => ⟨mark, hmark, hescaped, hu⟩
  by_cases hq : c = '"'
  · subst hq
    exact .inl (hmarked '"' rfl rfl (by decide))
  by_cases hb : c = '\\'
  · subst hb
    exact .inl (hmarked '\\' rfl rfl (by decide))
  by_cases hn : c = '\n'
  · subst hn
    exact .inl (hmarked 'n' rfl rfl (by decide))
  by_cases hr : c = '\r'
  · subst hr
    exact .inl (hmarked 'r' rfl rfl (by decide))
  by_cases ht : c = '\t'
  · subst ht
    exact .inl (hmarked 't' rfl rfl (by decide))
  by_cases h8 : c.toNat = 0x8
  · obtain rfl : c = '\x08' := Char.toNat_inj.mp h8
    exact .inl (hmarked 'b' rfl rfl (by decide))
  by_cases hC : c.toNat = 0xC
  · obtain rfl : c = '\x0c' := Char.toNat_inj.mp hC
    exact .inl (hmarked 'f' rfl rfl (by decide))
  have hrest : escapeChar c = if 0x20 ≤ c.toNat ∧ c.toNat ≤ 0x7E then [c]
      else if c.toNat < 0x10000 then codeUnit c.toNat
      else codeUnit (0xD800 + (c.toNat - 0x10000) / 0x400)
        ++ codeUnit (0xDC00 + (c.toNat - 0x10000) % 0x400) := by
    simp [escapeChar, hq, hb, hn, hr, ht, h8, hC]
  rw [hrest]
  split
  next h => exact .inr (.inl ⟨rfl, hq, hb, by omega⟩)
  split
  next h => exact .inr (.inr (.inl ⟨rfl, h⟩))
  next h => exact .inr (.inr (.inr ⟨rfl, by omega⟩))

theorem isHighSurrogate_add {n : Nat} (h : n < 0x400) : isHighSurrogate (0xD800 + n) = true := by
  simp only [isHighSurrogate, Bool.and_eq_true, decide_eq_true_eq]
  omega

theorem isLowSurrogate_add {n : Nat} (h : n < 0x400) : isLowSurrogate (0xDC00 + n) = true := by
  simp only [isLowSurrogate, Bool.and_eq_true, decide_eq_true_eq]
  omega

/-- The two units of a character beyond the basic plane are the halves of a pair. -/
theorem charOfPair_toNat {c : Char} (hc : 0x10000 ≤ c.toNat) :
    charOfPair (0xD800 + (c.toNat - 0x10000) / 0x400) (0xDC00 + (c.toNat - 0x10000) % 0x400)
      = c := by
  have hcode : 0x10000 + 0x400 * (0xD800 + (c.toNat - 0x10000) / 0x400 - 0xD800)
      + (0xDC00 + (c.toNat - 0x10000) % 0x400 - 0xDC00) = c.toNat := by omega
  rw [charOfPair, hcode]
  exact Char.ofNat_toNat c

/-- A written character reads back, whatever follows it. -/
theorem readString_escapeChar (start : Nat) (c next : Char) (rest : List Char) :
    readString start (escapeChar c ++ next :: rest)
      = (readString start (next :: rest)).map fun (text, rest) => (.char c :: text, rest) := by
  have hv : c.toNat < 0xD800 ∨ 0xDFFF < c.toNat ∧ c.toNat < 0x110000 := c.valid
  rcases escapeChar_cases c with
    ⟨mark, hwritten, hmark, hu⟩ | ⟨hwritten, hq, hb, hc⟩ | ⟨hwritten, hc⟩ | ⟨hwritten, hc⟩
  · rw [hwritten]
    exact readString_short start hmark hu _
  · rw [hwritten]
    exact readString_plain start hq hb hc _
  · rw [hwritten, readString_unit start hc next rest (.inl (not_surrogate c).1), ofUnit_toNat]
  · rw [hwritten, readString_pair start (isHighSurrogate_add (by omega))
      (isLowSurrogate_add (by omega)), charOfPair_toNat hc]

theorem separates_escapeChar (c : Char) (rest : List Char) : Separates (escapeChar c ++ rest) := by
  have hv : c.toNat < 0xD800 ∨ 0xDFFF < c.toNat ∧ c.toNat < 0x110000 := c.valid
  rcases escapeChar_cases c with
    ⟨mark, hwritten, -, hu⟩ | ⟨hwritten, -, hb, -⟩ | ⟨hwritten, hc⟩ | ⟨hwritten, hc⟩
  · rw [hwritten]
    exact separates_short hu _
  · rw [hwritten]
    exact separates_of_head hb _
  · rw [hwritten]
    exact separates_codeUnit hc (not_surrogate c).2 _
  · rw [hwritten, List.append_assoc]
    refine separates_codeUnit (by omega) ?_ _
    simp only [isLowSurrogate, Bool.and_eq_false_iff, decide_eq_false_iff_not]
    omega

section halves

variable (half : Half)

theorem code_lt : half.code < 65536 := by
  have := half.isLt
  unfold Half.code
  omega

theorem isHighSurrogate_code : isHighSurrogate half.code = half.isHigh := by
  unfold isHighSurrogate Half.code Half.isHigh
  rw [Bool.eq_iff_iff, Bool.and_eq_true, decide_eq_true_iff, decide_eq_true_iff,
    decide_eq_true_iff]
  omega

theorem isLowSurrogate_code : isLowSurrogate half.code = !half.isHigh := by
  have := half.isLt
  unfold isLowSurrogate Half.code Half.isHigh
  rw [Bool.eq_iff_iff, Bool.and_eq_true, decide_eq_true_iff, decide_eq_true_iff, Bool.not_eq_true',
    decide_eq_false_iff_not]
  omega

theorem ofUnit_code : Point.ofUnit half.code = .half half := by
  have := half.isLt
  have hcode : half.code - 0xD800 = half.val := by simp [Half.code]
  rw [Point.ofUnit, dif_pos (by unfold Half.code; omega)]
  simp [hcode]

theorem ofUnit_cases (code : Nat) :
    (∃ c, Point.ofUnit code = .char c) ∨
      ∃ half : Half, Point.ofUnit code = .half half ∧ half.code = code := by
  unfold Point.ofUnit
  split
  next h => exact .inr ⟨_, rfl, Nat.add_sub_cancel' h.1⟩
  next => exact .inl ⟨_, rfl⟩

end halves

theorem charOfPair_code (high low : Half) : charOfPair high.code low.code = high.join low := by
  have hlow : 0xD800 + low.val - 0xDC00 = low.val - 0x400 := by omega
  rw [charOfPair, Half.join, Half.code, Half.code, Nat.add_sub_cancel_left, hlow]

/-- A point reads back if it does not join with the one behind it. -/
theorem readString_escapePoint (start : Nat) {point : Point} {points : List Point}
    (apart : ∀ next ∈ points.head?, point.joins next = false) (rest : List Char) :
    readString start (escapePoint point ++ (points.flatMap escapePoint ++ '"' :: rest))
      = (readString start (points.flatMap escapePoint ++ '"' :: rest)).map
        fun (text, rest) => (point :: text, rest) := by
  obtain ⟨next, tail, he⟩ : ∃ next tail,
      points.flatMap escapePoint ++ '"' :: rest = next :: tail :=
    List.exists_cons_of_ne_nil (by simp)
  cases point with
  | char c => rw [escapePoint, he, readString_escapeChar]
  | half high =>
    have hnext : isHighSurrogate high.code = false ∨ Separates (next :: tail) := by
      rw [isHighSurrogate_code, ← he]
      cases points with
      | nil => exact .inr (separates_of_head (by decide) _)
      | cons other points =>
        rw [List.flatMap_cons, List.append_assoc]
        cases other with
        | char c => exact .inr (separates_escapeChar c _)
        | half low =>
          have hpair : high.isHigh = false ∨ low.isHigh = true := by
            cases hhigh : high.isHigh
            · exact .inl rfl
            · exact .inr (by simpa [Point.joins, hhigh] using apart)
          refine hpair.imp_right fun hlow => separates_codeUnit (code_lt low) ?_ _
          rw [isLowSurrogate_code, hlow]
          rfl
    rw [escapePoint, he, readString_unit start (code_lt high) next tail hnext, ofUnit_code]

/-- A written text reads as the text in which halves are joined. -/
theorem readString_flatMap_escapePoint (start : Nat) (points : List Point) (rest : List Char) :
    readString start (points.flatMap escapePoint ++ '"' :: rest)
      = .ok (Text.joined points, rest) := by
  induction points using Text.joined_induct with
  | nil => simp [readString, Text.joined]
  | pair high low points joins ih =>
    obtain ⟨next, tail, he⟩ : ∃ next tail,
        points.flatMap escapePoint ++ '"' :: rest = next :: tail :=
      List.exists_cons_of_ne_nil (by simp)
    have hhigh : high.isHigh = true ∧ low.isHigh = false := by simpa [Point.joins] using joins
    rw [Text.joined_pair joins, List.flatMap_cons, List.flatMap_cons, List.append_assoc,
      List.append_assoc, he, ← List.append_assoc, escapePoint, escapePoint,
      readString_pair start (by rw [isHighSurrogate_code, hhigh.1])
        (by rw [isLowSurrogate_code, hhigh.2]; rfl), ← he, ih, charOfPair_code]
    rfl
  | single point points hnext ih =>
    rw [Text.joined_cons hnext, List.flatMap_cons, List.append_assoc,
      readString_escapePoint start hnext, ih]
    rfl

/-- A written text is a quote, and what the reader of strings takes back. -/
theorem exists_readString_writeString (text : RawText) (rest : List Char) :
    ∃ body, writeString text ++ rest = '"' :: body ∧
      ∀ start, readString start body = .ok (text.joined.points, rest) := by
  refine ⟨text.points.flatMap escapePoint ++ '"' :: rest, ?_, fun start =>
    readString_flatMap_escapePoint start text.points rest⟩
  simp [writeString]

/-- A low half begins the text as a unit of its own. -/
def StartsLow (chars : List Char) : Prop :=
  ∃ a b c d next rest low, chars = '\\' :: 'u' :: a :: b :: c :: d :: next :: rest ∧
    hexCode? a b c d = some low ∧ isLowSurrogate low = true

/-- No half of the points joins with the one behind it; and if a low half comes first, the text
begins with its unit. -/
structure Settles (chars : List Char) (points : List Point) : Prop where
  joined_eq : Text.joined points = points
  startsLow : ∀ low, points.head? = some (.half low) → low.isHigh = false → StartsLow chars

theorem settles_char (chars : List Char) {later : List Char} {c : Char} {points : List Point}
    (settles : Settles later points) : Settles chars (.char c :: points) :=
  ⟨(Text.joined_char c points).trans (congrArg _ settles.joined_eq), nofun⟩

/-- A unit settles before a text that begins with no low half, unless it is a low half itself. -/
theorem settles_ofUnit {code : Nat} {a b c d next : Char} {rest : List Char} {points : List Point}
    (hcode : hexCode? a b c d = some code) (settles : Settles (next :: rest) points)
    (h : isHighSurrogate code = true → ¬StartsLow (next :: rest)) :
    Settles ('\\' :: 'u' :: a :: b :: c :: d :: next :: rest) (.ofUnit code :: points) := by
  rcases ofUnit_cases code with ⟨char, hchar⟩ | ⟨half, hhalf, rfl⟩
  · rw [hchar]
    exact settles_char _ settles
  rw [hhalf]
  constructor
  · rw [Text.joined_cons, settles.joined_eq]
    intro other hother
    cases other with
    | char _ => rfl
    | half low =>
      cases hhigh : half.isHigh with
      | false => simp [Point.joins, hhigh]
      | true =>
        have hlow : low.isHigh = true := by
          by_contra hlow
          exact h (by rw [isHighSurrogate_code, hhigh])
            (settles.startsLow low hother (by simpa using hlow))
        simp [Point.joins, hlow]
  · intro low hlow hlowest
    obtain rfl : half = low := by simpa using hlow
    refine ⟨a, b, c, d, next, rest, half.code, rfl, hcode, ?_⟩
    rw [isLowSurrogate_code, hlowest]
    rfl

/-- What is read of a text is settled. -/
theorem settles_readString {start : Nat} {chars rest : List Char} {points : List Point}
    (h : readString start chars = .ok (points, rest)) : Settles chars points := by
  fun_induction readString start chars generalizing points rest
  case case2 =>
    cases h
    exact ⟨rfl, nofun⟩
  case case5 ih | case10 ih | case13 ih =>
    obtain ⟨⟨text, _⟩, hread, he⟩ := map_eq_ok_iff.mp h
    obtain ⟨rfl, rfl⟩ := Prod.mk.inj he
    exact settles_char _ (ih hread)
  case case6 hcode _ _ _ _ _ _ _ _ hlow hother ih =>
    obtain ⟨⟨text, _⟩, hread, he⟩ := map_eq_ok_iff.mp h
    obtain ⟨rfl, rfl⟩ := Prod.mk.inj he
    refine settles_ofUnit hcode (ih hread) fun _ => ?_
    rintro ⟨_, _, _, _, _, _, low, hstarts, hstart, hislow⟩
    simp only [List.cons.injEq, true_and] at hstarts
    obtain ⟨rfl, rfl, rfl, rfl, -⟩ := hstarts
    rw [hlow] at hstart
    exact hother (Option.some.inj hstart ▸ hislow)
  case case7 hcode _ _ hother ih =>
    obtain ⟨⟨text, _⟩, hread, he⟩ := map_eq_ok_iff.mp h
    obtain ⟨rfl, rfl⟩ := Prod.mk.inj he
    refine settles_ofUnit hcode (ih hread) fun hhigh => ?_
    rintro ⟨_, _, _, _, _, _, _, hstarts, -, -⟩
    obtain ⟨rfl, rfl⟩ := List.cons.inj hstarts
    exact hother _ _ _ _ _ _ hhigh rfl rfl
  all_goals cases h

end Flowplan.Json

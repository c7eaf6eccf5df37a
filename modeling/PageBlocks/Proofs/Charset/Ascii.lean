import PageBlocks.Page.Source
import Mathlib.Data.List.Basic

/-!
Octets of ASCII. A page of them reads the same in nearly every encoding, whatever the tables of the large
sets of characters. Not so in UTF-16, in the encodings that must not be read at all, and in ISO 2022-JP
where it has an escape sequence or a shift. Without a declaration from outside such a page is read as what
it is, unless it names one of these itself.
-/
namespace PageBlocks.Charset

variable (i : Indexes) {bytes : List UInt8} {b : UInt8}

/-- The text of ASCII octets. -/
def asciiText (bytes : List UInt8) : List Char := bytes.map asciiChar

/-- No octet switches to another set of characters. -/
def Iso2022Jp.neverSwitches (bytes : List UInt8) : Bool :=
  bytes.all fun b => b != escape && !isShift b

/-- The encoding reads ASCII octets as what they are. -/
def Encoding.keepsAscii : Encoding → List UInt8 → Bool
  | utf8, _ | singleByte _, _ | gbk, _ | gb18030, _ | big5, _ | eucJp, _ | shiftJis, _ | eucKr, _ => true
  | userDefined, _ => true
  | iso2022jp, bytes => Iso2022Jp.neverSwitches bytes
  | utf16be, _ | utf16le, _ | replacement, _ => false

@[simp]
theorem length_asciiText : (asciiText bytes).length = bytes.length := List.length_map ..

theorem asciiChar_ne_replacement (h : b < 128) : asciiChar b ≠ '\ufffd' := by
  intro he
  have hb : b.toNat < 128 := UInt8.lt_iff_toNat_lt.mp h
  have hv : b.toNat.isValidChar := .inl (by omega)
  have hn : (asciiChar b).toNat = b.toNat := by
    rw [asciiChar, Char.ofNat, dif_pos hv]
    rfl
  rw [he] at hn
  have : '\ufffd'.toNat = 0xFFFD := rfl
  omega

theorem replacement_notMem (h : ∀ b ∈ bytes, b < 128) : '\ufffd' ∉ asciiText bytes := by
  intro hm
  obtain ⟨b, hb, he⟩ := List.mem_map.mp hm
  exact asciiChar_ne_replacement (h b hb) he

/-! ### Encodings that keep ASCII -/

namespace Utf8

theorem step_ascii (read : List (Option Char)) (h : b < 128) :
    Scan.step ⟨read, none⟩ b = ⟨some (asciiChar b) :: read, none⟩ := by
  have hb : b.toNat < 0x80 := UInt8.lt_iff_toNat_lt.mp h
  simp [Scan.step, Scan.begin, lead, hb, asciiChar]

theorem foldl_step_ascii (read : List (Option Char)) (h : ∀ b ∈ bytes, b < 128) :
    bytes.foldl Scan.step ⟨read, none⟩ = ⟨((asciiText bytes).map some).reverse ++ read, none⟩ := by
  induction bytes generalizing read with
  | nil => rfl
  | cons b bytes ih =>
    rw [List.foldl_cons, step_ascii read (h b (by simp)), ih _ fun c hc => h c (by simp [hc])]
    simp [asciiText]

theorem scan_ascii (h : ∀ b ∈ bytes, b < 128) : scan bytes = (asciiText bytes).map some := by
  unfold scan Scan.start
  rw [foldl_step_ascii [] h]
  simp [Scan.finish]

theorem decode?_ascii (h : ∀ b ∈ bytes, b < 128) : decode? bytes = some (asciiText bytes) := by
  have hall : ((asciiText bytes).map some).mapM id = some (asciiText bytes) := by
    rw [List.mapM_map]
    change List.mapM (fun c => pure (id c)) (asciiText bytes) = _
    rw [List.mapM_pure, List.map_id]
    rfl
  rw [decode?, scan_ascii h, hall]

theorem decode_ascii (h : ∀ b ∈ bytes, b < 128) : decode bytes = asciiText bytes := by
  unfold decode
  simp only [scan_ascii h, List.map_map]
  exact List.map_id _

end Utf8

theorem UpperHalf.decode_ascii (t : UpperHalf) (h : ∀ b ∈ bytes, b < 128) :
    t.decode bytes = asciiText bytes := by
  apply List.map_congr_left
  intro b hb
  exact if_pos (h b hb)

theorem Encoding.decode_userDefined_ascii (h : ∀ b ∈ bytes, b < 128) :
    userDefined.decode i bytes = asciiText bytes := by
  apply List.map_congr_left
  intro b hb
  simp [userDefinedChar, asciiChar, h b hb]

/-- A decoder with which octets of ASCII begin nothing reads them as what they are. -/
theorem Decoder.decode_ascii {σ : Type} (d : Decoder σ)
    (hstep : ∀ b < 128, d.step d.start b = (d.start, [asciiChar b])) (hfinish : d.finish d.start = [])
    (h : ∀ b ∈ bytes, b < 128) : d.decode bytes = asciiText bytes := by
  unfold decode
  induction bytes with
  | nil => exact hfinish
  | cons b bytes ih =>
    rw [decodeFrom_cons, hstep b (h b List.mem_cons_self),
      ih fun c hc => h c (List.mem_cons_of_mem b hc)]
    rfl

theorem DoubleByte.decode_ascii (e : DoubleByte) (h : ∀ b ∈ bytes, b < 128) :
    e.decoder.decode bytes = asciiText bytes :=
  e.decoder.decode_ascii (fun _ hb => if_pos hb) rfl h

theorem EucJp.decode_ascii (h : ∀ b ∈ bytes, b < 128) : (decoder i).decode bytes = asciiText bytes :=
  (decoder i).decode_ascii (fun _ hb => if_pos hb) rfl h

theorem Gb18030.decode_ascii (h : ∀ b ∈ bytes, b < 128) : (decoder i).decode bytes = asciiText bytes :=
  (decoder i).decode_ascii (fun _ hb => if_pos hb) rfl h

/-! ### UTF-16 -/

namespace Utf16

variable (unit : UInt8 → UInt8 → Nat)

theorem length_units (bytes : List UInt8) :
    2 * (units unit bytes).1.length + (units unit bytes).2.toNat = bytes.length := by
  fun_induction units unit bytes with
  | case1 a b rest us half h ih =>
    simp only [h] at ih
    simp only [List.length_cons]
    omega
  | case2 | case3 => rfl

theorem length_charsOf_le (half : Bool) (us : List Nat) :
    (charsOf half us).length ≤ us.length + half.toNat := by
  have hend : (if half = true then ['\ufffd'] else []).length = half.toNat := by cases half <;> rfl
  fun_induction charsOf half us with
  | case1 h | case2 h => simp [h]
  | case3 => simp
  | case4 =>
    simp only [List.length_cons, List.length_nil, hend]
    omega
  | case5 | case6 | case7 => simp only [List.length_cons] at *; omega

/-- Two octets make one unit, so that a text of at least two is shorter than its octets; one octet alone
is half a unit. -/
theorem decode_ne_ascii (h : ∀ b ∈ bytes, b < 128) (hne : bytes ≠ []) :
    decode unit bytes ≠ asciiText bytes := by
  intro he
  match bytes, hne with
  | [b], _ =>
    have hm : '\ufffd' ∈ asciiText [b] := by
      rw [← he]
      simp [decode, units, charsOf]
    exact replacement_notMem h hm
  | a :: b :: rest, _ =>
    have hlen := congrArg List.length he
    have hu := length_units unit (a :: b :: rest)
    have hc := length_charsOf_le (units unit (a :: b :: rest)).2 (units unit (a :: b :: rest)).1
    have hhalf := Bool.toNat_le (units unit (a :: b :: rest)).2
    simp only [decode, length_asciiText, List.length_cons] at hlen hu hc
    omega

end Utf16

/-! ### ISO 2022-JP -/

namespace Iso2022Jp

/-- How many characters what is not complete can make. -/
def Begun.size : Begun → Nat
  | .nothing => 0
  | .kanji _ | .escape => 1
  | .sequence _ => 2

namespace State

theorem begin_size (s : State) (b : UInt8) :
    (s.begin b).2.length + (s.begin b).1.begun.size ≤ 1 := by
  fun_cases begin s b <;> simp [Begun.size]

theorem read_size (s : State) (b : UInt8) :
    (s.read b).2.length + (s.read b).1.begun.size ≤ s.begun.size + 1 := by
  fun_cases read s b with
  | case1 lead h =>
    rw [h]
    fun_cases complete s lead b <;> simp [Begun.size]
  | case2 =>
    have := begin_size s b
    omega

theorem step_size (s : State) (b : UInt8) :
    (s.step b).2.length + (s.step b).1.begun.size ≤ s.begun.size + 1 := by
  fun_cases step s b with
  | case1 h hb => simp [h, Begun.size]
  | case2 h hb s' cs hs =>
    have hbegin := begin_size s.giveUp b
    have hsize : s.begun.size = 1 := by rw [h]; rfl
    simp only [hs] at hbegin
    simp only [List.length_cons]
    omega
  | case3 second h charSet hc =>
    simp only [h, Begun.size]
    split <;> simp
  | case4 second h hc s' cs hs t ds ht =>
    have hbegin := begin_size s.giveUp second
    have hread := read_size s' b
    simp only [hs] at hbegin
    simp only [ht] at hread
    have hsize : s.begun.size = 2 := by rw [h]; rfl
    simp only [List.cons_append, List.length_cons, List.length_append]
    omega
  | case5 => exact read_size s b

theorem length_finish_le (s : State) : s.finish.length ≤ s.begun.size := by
  fun_cases finish s with
  | case1 h => simp
  | case2 lead h | case3 h => simp [h, Begun.size]
  | case4 second h s' cs hs =>
    have hbegin := begin_size s.giveUp second
    simp only [hs] at hbegin
    have hsize : s.begun.size = 2 := by rw [h]; rfl
    have hend : (if s'.begun == .nothing then [] else ['\ufffd']).length ≤ s'.begun.size := by
      cases s'.begun <;> simp [Begun.size]
    simp only [List.cons_append, List.length_cons, List.length_append]
    omega

/-- A text has no more characters than octets. -/
theorem length_decodeFrom_le (s : State) (bytes : List UInt8) :
    (decoder.decodeFrom s bytes).length ≤ s.begun.size + bytes.length := by
  induction bytes generalizing s with
  | nil => exact length_finish_le s
  | cons b rest ih =>
    have hstep := step_size s b
    have hrest := ih (s.step b).1
    simp only [Decoder.decodeFrom_cons, List.length_append, List.length_cons]
    change (s.step b).2.length + (decoder.decodeFrom (s.step b).1 rest).length ≤ _
    omega

end State

/-- The state after an escape in a text that has had none before. -/
def escaped : State := ⟨.ascii, .escape, false⟩

/-- An escape sequence is complete with its third octet, and there is no character for it, or it is
broken. -/
theorem decodeFrom_sequence (second : UInt8) (rest : List UInt8) :
    '\ufffd' ∈ decoder.decodeFrom ⟨.ascii, .sequence second, false⟩ rest ∨
      (decoder.decodeFrom ⟨.ascii, .sequence second, false⟩ rest).length < rest.length := by
  cases rest with
  | nil => exact .inl (by simp [decoder, State.finish])
  | cons third rest =>
    cases hset : charSetOf? second third with
    | none => exact .inl (by simp [decoder, State.step, hset])
    | some charSet =>
      have hlen := State.length_decodeFrom_le ⟨charSet, .nothing, true⟩ rest
      have heq : decoder.decodeFrom ⟨.ascii, .sequence second, false⟩ (third :: rest) =
          decoder.decodeFrom ⟨charSet, .nothing, true⟩ rest := by
        simp [decoder, State.step, hset]
      refine .inr ?_
      rw [heq, List.length_cons]
      simp only [Begun.size] at hlen
      omega

theorem decodeFrom_escaped (rest : List UInt8) :
    '\ufffd' ∈ decoder.decodeFrom escaped rest ∨ (decoder.decodeFrom escaped rest).length < rest.length := by
  cases rest with
  | nil => exact .inl (by simp [decoder, State.finish, escaped])
  | cons b rest =>
    by_cases hb : (b == 0x24 || b == 0x28) = true
    · have heq : decoder.decodeFrom escaped (b :: rest) =
          decoder.decodeFrom ⟨.ascii, .sequence b, false⟩ rest := by
        simp only [Decoder.decodeFrom_cons, decoder, State.step, escaped, hb, if_true, List.nil_append]
      rw [heq, List.length_cons]
      exact (decodeFrom_sequence b rest).imp_right fun hlen => by omega
    · exact .inl (by simp [decoder, State.step, escaped, hb])

theorem step_start (h : b < 128) (hb : (b != escape && !isShift b) = true) :
    State.start.step b = (.start, [asciiChar b]) := by
  simp only [Bool.and_eq_true, bne_iff_ne] at hb
  simp [State.step, State.start, State.read, State.begin, charOf?, asciiChar, hb, h]

theorem decodeFrom_start_ne (rest : List UInt8) (h : ∀ c ∈ b :: rest, c < 128)
    (hb : (b != escape && !isShift b) = false) :
    decoder.decodeFrom .start (b :: rest) ≠ asciiText (b :: rest) := by
  intro he
  by_cases hesc : b = escape
  · subst hesc
    have heq : decoder.decodeFrom .start (escape :: rest) = decoder.decodeFrom escaped rest := rfl
    rw [heq] at he
    rcases decodeFrom_escaped rest with hm | hlen
    · exact replacement_notMem h (he ▸ hm)
    · rw [he, length_asciiText, List.length_cons] at hlen
      omega
  · have hshift : isShift b = true := by simpa [hesc] using hb
    have hm : '\ufffd' ∈ decoder.decodeFrom .start (b :: rest) := by
      simp [decoder, State.step, State.start, State.read, State.begin, charOf?, hesc, hshift]
    exact replacement_notMem h (he ▸ hm)

/-- A text of ASCII octets is read as what it is if it switches nowhere, and only then. -/
theorem decode_eq_ascii_iff (h : ∀ b ∈ bytes, b < 128) :
    decoder.decode bytes = asciiText bytes ↔ neverSwitches bytes = true := by
  unfold Decoder.decode neverSwitches
  induction bytes with
  | nil => simp [decoder, State.finish, State.start, asciiText]
  | cons b rest ih =>
    rw [List.all_cons, Bool.and_eq_true, ← ih fun c hc => h c (by simp [hc])]
    by_cases hb : (b != escape && !isShift b) = true
    · have hstep := step_start (h b (by simp)) hb
      simp [decoder, hstep, asciiText, hb]
    · have hne := decodeFrom_start_ne rest h (Bool.eq_false_iff.mpr hb)
      exact iff_of_false hne fun hkeeps => hb hkeeps.1

end Iso2022Jp

/-! ### The text of a page -/

namespace Encoding

/-- No byte order mark is ASCII. -/
theorem decodeMarked_ascii (e : Encoding) (h : ∀ b ∈ bytes, b < 128) :
    e.decodeMarked i bytes = e.decode i bytes := by
  fun_cases decodeMarked i e bytes with
  | case1 rest | case2 rest | case3 rest => exact absurd (h _ List.mem_cons_self) (by decide)
  | case4 => rfl

theorem decode_eq_ascii_iff (e : Encoding) (h : ∀ b ∈ bytes, b < 128) (hne : bytes ≠ []) :
    e.decode i bytes = asciiText bytes ↔ e.keepsAscii bytes = true := by
  cases e with
  | utf8 => exact iff_of_true (Utf8.decode_ascii h) rfl
  | singleByte upper => exact iff_of_true (upper.decode_ascii h) rfl
  | userDefined => exact iff_of_true (decode_userDefined_ascii i h) rfl
  | gbk | gb18030 => exact iff_of_true (Gb18030.decode_ascii i h) rfl
  | big5 | shiftJis | eucKr => exact iff_of_true (DoubleByte.decode_ascii _ h) rfl
  | eucJp => exact iff_of_true (EucJp.decode_ascii i h) rfl
  | utf16be => exact iff_of_false (Utf16.decode_ne_ascii _ h hne) Bool.false_ne_true
  | utf16le => exact iff_of_false (Utf16.decode_ne_ascii _ h hne) Bool.false_ne_true
  | iso2022jp => exact Iso2022Jp.decode_eq_ascii_iff h
  | replacement =>
    refine iff_of_false ?_ Bool.false_ne_true
    intro he
    have hd : replacement.decode i bytes = ['\ufffd'] := by simp [decode, hne]
    exact replacement_notMem h (by simp [← he, hd])

end Encoding

theorem ne_nil_of_declaredLabel? {label : String} (h : declaredLabel? bytes = some label) :
    bytes ≠ [] := by
  rintro rfl
  cases h

end PageBlocks.Charset

namespace PageBlocks.Page.Source

open Charset

variable (i : Indexes) {bytes : List UInt8}

theorem undeclaredText_ascii (h : ∀ b ∈ bytes, b < 128) :
    undeclaredText i bytes = asciiText bytes := by
  simp [undeclaredText, Utf8.decode?_ascii h]

theorem textOf_ascii_iff (charset : Option String) (h : ∀ b ∈ bytes, b < 128) (hne : bytes ≠ []) :
    textOf i charset bytes = asciiText bytes ↔
      ∀ e, charset.bind Encoding.ofLabel? = some e → e.keepsAscii bytes = true := by
  unfold textOf
  split
  · next hnone =>
    simp [undeclaredText_ascii i h, hnone]
  · next hutf8 =>
    simp [undeclaredText_ascii i h, hutf8, Encoding.keepsAscii]
  · next e _ he =>
    rw [e.decodeMarked_ascii i h, e.decode_eq_ascii_iff i h hne]
    exact ⟨fun hk e' he' => Option.some_inj.mp (he.symm.trans he') ▸ hk, fun hk => hk e he⟩

/-- What a page of ASCII octets is read as, without a declaration from outside and with any tables. -/
theorem read_ascii_iff (i : Indexes) (bytes : List UInt8) (h : ∀ b ∈ bytes, b < 128) :
    (read i bytes none).html = String.ofList (asciiText bytes) ↔
      ∀ label e, declaredLabel? bytes = some label → Encoding.ofLabel? label = some e →
        e.keepsAscii bytes = true := by
  have hcharset : (read i bytes none).html = String.ofList (textOf i (declaredLabel? bytes) bytes) := rfl
  rw [hcharset, String.ofList_inj]
  cases hlabel : declaredLabel? bytes with
  | none => simp [textOf, undeclaredText_ascii i h]
  | some label =>
    rw [textOf_ascii_iff i _ h (ne_nil_of_declaredLabel? hlabel)]
    exact ⟨fun hk _ e hl => Option.some_inj.mp hl ▸ hk e, fun hk e => hk label e rfl⟩

/-- The octets of a text in ASCII. -/
def octets (text : String) : List UInt8 := text.toList.map fun c => UInt8.ofNat c.toNat

/-- A Japanese page, as far as its declaration goes. -/
def japanesePage : List UInt8 := octets "<meta charset=iso-2022-jp><p>hello</p>"

theorem ofBytes_japanesePage :
    (∀ b ∈ japanesePage, b < 128) ∧
      (ofBytes japanesePage none).html = String.ofList (asciiText japanesePage) := by
  have hascii : ∀ b ∈ japanesePage, b < 128 := by decide +kernel
  have hlabel : declaredLabel? japanesePage = some "iso-2022-jp" := by decide +kernel
  have hencoding : Encoding.ofLabel? "iso-2022-jp" = some .iso2022jp := by decide +kernel
  refine ⟨hascii, (read_ascii_iff .absent japanesePage hascii).mpr ?_⟩
  intro label e hl he
  rw [hlabel, Option.some_inj] at hl
  subst hl
  rw [hencoding, Option.some_inj] at he
  subst he
  decide +kernel

/-- A page that says of itself, in ASCII, that it is UTF-16. -/
def utf16Page : List UInt8 := octets "<meta charset=\"utf-16le\"><p>hello</p>"

theorem ofBytes_utf16Page :
    (∀ b ∈ utf16Page, b < 128) ∧ declaredLabel? utf16Page = some "utf-16le" ∧
      (ofBytes utf16Page none).html ≠ String.ofList (asciiText utf16Page) := by
  decide +kernel

end PageBlocks.Page.Source

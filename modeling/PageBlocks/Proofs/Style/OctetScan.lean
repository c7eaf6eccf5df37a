import PageBlocks.Proofs.Style.Quotes
import PageBlocks.Proofs.Text.Octets

/-!
Scanning the octets of a text. A scan of the octets takes away the meaning of one octet behind a backslash,
where a scan of the characters takes away that of a whole character; but the octets that are left of such
a character mean nothing to it. So between two characters both scans are in the same state, and they find
what they look for in the same places.
-/
namespace PageBlocks.Style

open Text (octets offset)

/-- The state of a scan between two octets. -/
structure OctetQuoting where
  quote : Option UInt8
  escaped : Bool
  deriving DecidableEq

namespace OctetQuoting

/-- Outside strings, with no escape pending. -/
def plain : OctetQuoting := ⟨none, false⟩

def step (q : OctetQuoting) (b : UInt8) : OctetQuoting :=
  if q.escaped then { q with escaped := false }
  else if b = '\\'.toUInt8 then { q with escaped := true }
  else
    match q.quote with
    | some d => if b = d then plain else q
    | none => if b = '"'.toUInt8 ∨ b = '\''.toUInt8 then ⟨some b, false⟩ else q

/-- The state after octets. -/
def run (q : OctetQuoting) (bs : List UInt8) : OctetQuoting := bs.foldl step q

end OctetQuoting

/-- The place of the first `needle` outside strings, counting octets from `place`. -/
def firstOctetFrom (needle : UInt8) (q : OctetQuoting) (place : Nat) : List UInt8 → Option Nat
  | [] => none
  | b :: rest =>
    if q = .plain ∧ b = needle then some place
    else firstOctetFrom needle (q.step b) (place + 1) rest

/-- The place of the first `needle` outside strings, in octets. -/
def firstOctet (needle : UInt8) (bs : List UInt8) : Option Nat := firstOctetFrom needle .plain 0 bs

/-- The place at which the braces balance, counting octets from `place` with `depth` braces open. -/
def closingOctetFrom (depth : Nat) (q : OctetQuoting) (place : Nat) : List UInt8 → Option Nat
  | [] => none
  | b :: rest =>
    if q = .plain ∧ b = '\x7b'.toUInt8 then closingOctetFrom (depth + 1) q (place + 1) rest
    else if q = .plain ∧ b = '\x7d'.toUInt8 then
      if depth - 1 = 0 then some place else closingOctetFrom (depth - 1) q (place + 1) rest
    else closingOctetFrom depth (q.step b) (place + 1) rest

/-- The place of the brace that closes the one at `opening`, in octets. -/
def closingOctet (bs : List UInt8) (opening : Nat) : Option Nat :=
  closingOctetFrom 0 .plain opening (bs.drop opening)

/-! ### States -/

/-- The state of a scan of octets that has seen the same characters. -/
def Quoting.ofOctets (q : Quoting) : OctetQuoting := ⟨q.quote.map Char.toUInt8, q.escaped⟩

theorem ofOctets_eq_plain_iff {q : Quoting} : q.ofOctets = .plain ↔ q = .plain := by
  obtain ⟨quote, escaped⟩ := q
  cases quote <;> simp [Quoting.ofOctets, Quoting.plain, OctetQuoting.plain]

namespace OctetQuoting

/-- An octet that neither opens nor closes a string, and is no backslash. -/
def Inert (b : UInt8) : Prop := b ≠ '\\'.toUInt8 ∧ b ≠ '"'.toUInt8 ∧ b ≠ '\''.toUInt8

theorem step_inert {q : Quoting} (h : q.Sound) {b : UInt8} (hb : Inert b) :
    q.ofOctets.step b = ⟨q.ofOctets.quote, false⟩ := by
  obtain ⟨quote, escaped⟩ := q
  obtain ⟨hback, hdouble, hsingle⟩ := hb
  cases escaped with
  | true => rfl
  | false =>
    cases quote with
    | none => simp [Quoting.ofOctets, step, hback, hdouble, hsingle]
    | some d =>
      rcases h d rfl with rfl | rfl <;> simp [Quoting.ofOctets, step, hback, hdouble, hsingle]

/-- Octets that mean nothing to a scan end an escape. -/
theorem run_inert {q : Quoting} (h : q.Sound) {bs : List UInt8} (hne : bs ≠ [])
    (hbs : ∀ b ∈ bs, Inert b) : q.ofOctets.run bs = ⟨q.ofOctets.quote, false⟩ := by
  induction bs generalizing q with
  | nil => exact absurd rfl hne
  | cons b bs ih =>
    have hstep := step_inert h (hbs b List.mem_cons_self)
    have hnext : q.ofOctets.step b = Quoting.ofOctets ⟨q.quote, false⟩ := hstep
    cases bs with
    | nil => exact hstep
    | cons c bs =>
      rw [run, List.foldl_cons, hnext]
      exact ih h (List.cons_ne_nil c bs) fun x hx => hbs x (List.mem_cons_of_mem _ hx)

end OctetQuoting

/-- The octets of a character that means nothing to a scan mean nothing to it either. -/
theorem inert_of_mem_utf8EncodeChar {c : Char} (h : Quoting.Inert c) {b : UInt8}
    (hb : b ∈ String.utf8EncodeChar c) : OctetQuoting.Inert b := by
  obtain ⟨hback, hdouble, hsingle⟩ := h
  by_cases hascii : Text.isAscii c = true
  · rw [Text.utf8EncodeChar_of_isAscii hascii, List.mem_singleton] at hb
    subst hb
    exact ⟨fun h => hback ((Text.toUInt8_inj hascii rfl).mp h),
      fun h => hdouble ((Text.toUInt8_inj hascii rfl).mp h),
      fun h => hsingle ((Text.toUInt8_inj hascii rfl).mp h)⟩
  · rw [Bool.not_eq_true] at hascii
    exact ⟨Text.ne_of_mem_utf8EncodeChar hascii rfl hb, Text.ne_of_mem_utf8EncodeChar hascii rfl hb,
      Text.ne_of_mem_utf8EncodeChar hascii rfl hb⟩

/-- A scan of the octets of a character ends in the state of the scan of the character. -/
theorem run_utf8EncodeChar {q : Quoting} (h : q.Sound) (c : Char) :
    q.ofOctets.run (String.utf8EncodeChar c) = (q.step c).ofOctets := by
  by_cases hc : Quoting.Inert c
  · rw [Quoting.step_inert h hc]
    exact OctetQuoting.run_inert h String.utf8EncodeChar_ne_nil fun b => inert_of_mem_utf8EncodeChar hc
  · -- a backslash or a quotation mark, inside of no string or of one of two kinds
    have hmark : c = '\\' ∨ c = '"' ∨ c = '\'' := by
      simpa only [Quoting.Inert, not_and_or, not_not] using hc
    obtain ⟨quote, escaped⟩ := q
    have hquote : quote = none ∨ quote = some '"' ∨ quote = some '\'' := by
      cases quote with
      | none => exact .inl rfl
      | some d => exact .inr ((h d rfl).imp (congrArg some) (congrArg some))
    rcases hmark with rfl | rfl | rfl <;> rcases hquote with rfl | rfl | rfl <;> cases escaped <;> decide

/-! ### The first needle -/

theorem firstOctetFrom_append {needle : UInt8} {q : OctetQuoting} {place : Nat} {bs : List UInt8}
    (h : firstOctetFrom needle q place bs = none) (rest : List UInt8) :
    firstOctetFrom needle q place (bs ++ rest) =
      firstOctetFrom needle (q.run bs) (place + bs.length) rest := by
  induction bs generalizing q place with
  | nil => rfl
  | cons b bs ih =>
    rw [firstOctetFrom] at h
    split at h
    · cases h
    · rename_i hne
      rw [List.cons_append, firstOctetFrom, if_neg hne, ih h, List.length_cons, Nat.add_assoc,
        Nat.add_comm 1]
      rfl

theorem firstOctetFrom_of_notMem {needle : UInt8} {q : OctetQuoting} {place : Nat} {bs : List UInt8}
    (h : needle ∉ bs) : firstOctetFrom needle q place bs = none := by
  induction bs generalizing q place with
  | nil => rfl
  | cons b bs ih =>
    rw [List.mem_cons, not_or] at h
    rw [firstOctetFrom, if_neg fun hfound => h.1 hfound.2.symm, ih h.2]

/-- The octets of a character are the needle where the character is. -/
theorem firstOctetFrom_utf8EncodeChar {needle : Char} (hneedle : Text.isAscii needle = true)
    {q : Quoting} {c : Char} (h : ¬ (q = .plain ∧ c = needle)) (place : Nat) :
    firstOctetFrom needle.toUInt8 q.ofOctets place (String.utf8EncodeChar c) = none := by
  by_cases hascii : Text.isAscii c = true
  · rw [Text.utf8EncodeChar_of_isAscii hascii, firstOctetFrom, if_neg]
    · rfl
    · rintro ⟨hplain, hfound⟩
      exact h ⟨ofOctets_eq_plain_iff.mp hplain, (Text.toUInt8_inj hascii hneedle).mp hfound⟩
  · rw [Bool.not_eq_true] at hascii
    exact firstOctetFrom_of_notMem fun hmem => Text.ne_of_mem_utf8EncodeChar hascii hneedle hmem rfl

/-- The scan of the octets behind a front finds the needle where the scan of the characters does. -/
theorem firstOctetFrom_octets {needle : Char} (hneedle : Text.isAscii needle = true) {q : Quoting}
    (h : q.Sound) (front cs : List Char) :
    firstOctetFrom needle.toUInt8 q.ofOctets (octets front).length (octets cs) =
      (firstOutsideFrom needle q front.length cs).map (offset (front ++ cs)) := by
  induction cs generalizing q front with
  | nil => rfl
  | cons c cs ih =>
    rw [firstOutsideFrom, Text.octets_cons]
    split
    · rename_i hfound
      obtain ⟨rfl, rfl⟩ := hfound
      rw [Text.utf8EncodeChar_of_isAscii hneedle, List.singleton_append, firstOctetFrom,
        if_pos ⟨rfl, rfl⟩, Option.map_some, Text.offset, List.take_left]
    · rename_i hne
      have hfront : (octets (front ++ [c])).length =
          (octets front).length + (String.utf8EncodeChar c).length := by
        rw [Text.octets_append, List.length_append, Text.octets_cons, Text.octets_nil, List.append_nil]
      rw [firstOctetFrom_append (firstOctetFrom_utf8EncodeChar hneedle hne _), run_utf8EncodeChar h,
        ← hfront, ih (h.step c) (front ++ [c]), List.length_append, List.append_assoc]
      rfl

/-- The needle is found in the octets of a text where it is found in the text. -/
theorem firstOctet_octets {needle : Char} (hneedle : Text.isAscii needle = true) (cs : List Char) :
    firstOctet needle.toUInt8 (octets cs) = (firstOutside needle cs).map (offset cs) :=
  firstOctetFrom_octets hneedle Quoting.sound_plain [] cs

/-! ### The closing brace -/

theorem closingOctetFrom_append {depth : Nat} {q : OctetQuoting} {place : Nat} {bs : List UInt8}
    (h : ∀ b ∈ bs, b ≠ '\x7b'.toUInt8 ∧ b ≠ '\x7d'.toUInt8) (rest : List UInt8) :
    closingOctetFrom depth q place (bs ++ rest) =
      closingOctetFrom depth (q.run bs) (place + bs.length) rest := by
  induction bs generalizing q place with
  | nil => rfl
  | cons b bs ih =>
    obtain ⟨hopen, hclose⟩ := h b List.mem_cons_self
    rw [List.cons_append, closingOctetFrom, if_neg fun hb => hopen hb.2, if_neg fun hb => hclose hb.2,
      ih fun x hx => h x (List.mem_cons_of_mem _ hx), List.length_cons, Nat.add_assoc, Nat.add_comm 1]
    rfl

/-- What the scan does with the octets of a character that is no brace, or not outside strings. -/
theorem closingOctetFrom_pass {q : Quoting} (h : q.Sound) {c : Char}
    (hopen : ¬ (q = .plain ∧ c = '\x7b')) (hclose : ¬ (q = .plain ∧ c = '\x7d')) (depth place : Nat)
    (rest : List UInt8) :
    closingOctetFrom depth q.ofOctets place (String.utf8EncodeChar c ++ rest) =
      closingOctetFrom depth (q.step c).ofOctets (place + (String.utf8EncodeChar c).length) rest := by
  rw [← run_utf8EncodeChar h]
  by_cases hascii : Text.isAscii c = true
  · have hbyte : ∀ d : Char, Text.isAscii d = true → ¬ (q = .plain ∧ c = d) →
        ¬ (q.ofOctets = .plain ∧ c.toUInt8 = d.toUInt8) := fun d hd hne hb =>
      hne ⟨ofOctets_eq_plain_iff.mp hb.1, (Text.toUInt8_inj hascii hd).mp hb.2⟩
    rw [Text.utf8EncodeChar_of_isAscii hascii, List.singleton_append, closingOctetFrom,
      if_neg (hbyte _ rfl hopen), if_neg (hbyte _ rfl hclose)]
    rfl
  · rw [Bool.not_eq_true] at hascii
    exact closingOctetFrom_append (fun b hb =>
      ⟨Text.ne_of_mem_utf8EncodeChar hascii rfl hb, Text.ne_of_mem_utf8EncodeChar hascii rfl hb⟩) rest

/-- The scan of the octets behind a front finds the closing brace where the scan of the characters does. -/
theorem closingOctetFrom_octets {q : Quoting} (h : q.Sound) (depth : Nat) (front cs : List Char) :
    closingOctetFrom depth q.ofOctets (octets front).length (octets cs) =
      (closingBraceFrom depth q front.length cs).map (offset (front ++ cs)) := by
  induction cs generalizing q depth front with
  | nil => rfl
  | cons c cs ih =>
    have hfront : (octets (front ++ [c])).length =
        (octets front).length + (String.utf8EncodeChar c).length := by
      rw [Text.octets_append, List.length_append, Text.octets_cons, Text.octets_nil, List.append_nil]
    have hnext : ∀ (q' : Quoting) (depth' : Nat), q'.Sound →
        closingOctetFrom depth' q'.ofOctets ((octets front).length + (String.utf8EncodeChar c).length)
            (octets cs) =
          (closingBraceFrom depth' q' (front.length + 1) cs).map (offset (front ++ c :: cs)) := by
      intro q' depth' h'
      rw [← hfront, ih h' depth' (front ++ [c]), List.length_append, List.append_assoc]
      rfl
    rw [closingBraceFrom, Text.octets_cons]
    split
    · rename_i hopen
      obtain ⟨rfl, rfl⟩ := hopen
      exact hnext .plain (depth + 1) Quoting.sound_plain
    · rename_i hopen
      split
      · rename_i hclose
        obtain ⟨rfl, rfl⟩ := hclose
        have hstep := hnext .plain (depth - 1) Quoting.sound_plain
        rw [Text.utf8EncodeChar_of_isAscii rfl] at hstep ⊢
        rw [List.singleton_append, closingOctetFrom, if_neg (by decide), if_pos ⟨rfl, rfl⟩]
        split
        · rw [Option.map_some, Text.offset, List.take_left]
        · exact hstep
      · rename_i hclose
        rw [closingOctetFrom_pass h hopen hclose]
        exact hnext _ depth (h.step c)

/-- The octets of what stands from a place on are those from its offset on. -/
theorem drop_offset (cs : List Char) (place : Nat) :
    (octets cs).drop (offset cs place) = octets (cs.drop place) := by
  have hparts : octets cs = octets (cs.take place) ++ octets (cs.drop place) := by
    rw [← Text.octets_append, List.take_append_drop]
  rw [hparts, Text.offset, List.drop_left]

/-- The closing brace is found in the octets of a text where it is found in the text. -/
theorem closingOctet_octets (cs : List Char) (opening : Nat) :
    closingOctet (octets cs) (offset cs opening) = (closingBrace cs opening).map (offset cs) := by
  rw [closingOctet, drop_offset, closingBrace]
  by_cases hle : opening ≤ cs.length
  · have hscan := closingOctetFrom_octets Quoting.sound_plain 0 (cs.take opening) (cs.drop opening)
    rwa [List.length_take_of_le hle, List.take_append_drop] at hscan
  · -- behind the end of the text there is nothing to scan
    rw [List.drop_eq_nil_of_le (Nat.le_of_not_le hle)]
    rfl

end PageBlocks.Style

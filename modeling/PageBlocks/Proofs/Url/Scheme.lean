import Mathlib.Data.List.TakeDrop
import Mathlib.Data.List.TakeWhile
import PageBlocks.Proofs.Text.Letters
import PageBlocks.Url.Parser

/-!
Schemes of addresses. An address has the scheme that its text names, or else the scheme of the page from
which it was read; and the scheme of an address is named by the text that is written for it.
-/
namespace PageBlocks.Url

/-- The scheme that a text names, in small letters, if it names one. -/
def schemeOf? (text : String) : Option (List Char) := (scheme? (cleaned text.toList)).map Prod.fst

/-! ### The scheme that an address is given -/

@[simp] theorem scheme_withFragment (u : Url) (cs : List Char) :
    (u.withFragment cs).scheme = u.scheme := by
  unfold withFragment
  split <;> rfl

@[simp] theorem scheme_withQuery (u : Url) (cs : List Char) : (u.withQuery cs).scheme = u.scheme := by
  unfold withQuery
  split <;> simp only [scheme_withFragment]

@[simp] theorem scheme_withPath (u : Url) (start cs : List Char) :
    (u.withPath start cs).scheme = u.scheme := by
  simp only [withPath, scheme_withQuery]

theorem scheme_ofAuthority? {scheme cs : List Char} {u : Url} (h : ofAuthority? scheme cs = some u) :
    u.scheme = scheme := by
  simp only [ofAuthority?, Option.bind_eq_bind, Option.bind_eq_some_iff] at h
  obtain ⟨⟨authority, rest⟩, -, h⟩ := h
  split at h
  · cases rest with
    | nil =>
      cases h
      rfl
    | cons c rest =>
      dsimp only at h
      split at h <;> cases h <;> simp only [scheme_withQuery, scheme_withPath]
  · cases h
    simp only [scheme_withPath]

theorem scheme_relative? {base u : Url} {cs : List Char} (h : base.relative? cs = some u) :
    u.scheme = base.scheme := by
  unfold relative? at h
  split at h
  · cases h
    rfl
  · cases h
    exact scheme_withQuery ..
  · cases h
    exact scheme_withFragment ..
  · split at h
    · split at h
      · split at h
        · exact scheme_ofAuthority? h
        · cases h
          exact scheme_withPath ..
      · cases h
        exact scheme_withPath ..
    · cases h
      exact scheme_withPath ..

/-! #### Addresses of files -/

theorem scheme_ofFileHost? {cs : List Char} {u : Url} (h : ofFileHost? cs = some u) :
    u.scheme = fileScheme := by
  simp only [ofFileHost?] at h
  split at h
  · cases h
    exact scheme_withPath ..
  · simp only [Option.bind_eq_bind, Option.bind_eq_some_iff] at h
    obtain ⟨host, -, h⟩ := h
    split at h <;> cases h <;> exact scheme_withPath ..

theorem scheme_fromRoot (base : Option Url) (cs : List Char) :
    (fromRoot base cs).scheme = fileScheme := by
  unfold fromRoot
  split
  · exact scheme_withPath ..
  · dsimp only
    split
    · exact scheme_withPath ..
    · split <;> exact scheme_withPath ..

theorem scheme_fromPage {base : Option Url} (hbase : ∀ page ∈ base, page.scheme = fileScheme)
    (cs : List Char) : (fromPage base cs).scheme = fileScheme := by
  cases base with
  | none => exact scheme_withPath ..
  | some page =>
    have hpage := hbase page rfl
    unfold fromPage
    dsimp only
    split
    · exact hpage
    · exact (scheme_withQuery ..).trans hpage
    · exact (scheme_withFragment ..).trans hpage
    · split
      · exact scheme_withPath ..
      · exact (scheme_withPath ..).trans hpage

theorem scheme_file? {base : Option Url} (hbase : ∀ page ∈ base, page.scheme = fileScheme)
    {cs : List Char} {u : Url} (h : file? base cs = some u) : u.scheme = fileScheme := by
  unfold file? at h
  split at h
  · split at h
    · exact scheme_ofFileHost? h
    · split at h <;> cases h
      · exact scheme_fromRoot ..
      · exact scheme_fromPage hbase _
  · split at h <;> cases h
    · exact scheme_fromRoot ..
    · exact scheme_fromPage hbase _
  · cases h
    exact scheme_fromPage hbase _

/-! #### Any address -/

theorem scheme_ofOther? {scheme cs : List Char} {u : Url} (h : ofOther? scheme cs = some u) :
    u.scheme = scheme := by
  unfold ofOther? at h
  split at h
  · exact scheme_ofAuthority? h
  · cases h
    exact scheme_withPath ..
  · cases h
    exact scheme_withQuery ..

theorem scheme_eq_file_of_kind {scheme : List Char} (h : kindOf scheme = .file) :
    scheme = fileScheme := by
  unfold kindOf at h
  split at h
  · assumption
  · split at h <;> cases h

theorem scheme_ofScheme? {base : Option Url} {scheme cs : List Char} {u : Url}
    (h : ofScheme? base scheme cs = some u) : u.scheme = scheme := by
  have hbase : ∀ page ∈ base.filter fun page => page.scheme = scheme, page.scheme = scheme := by
    intro page hpage
    simpa using (Option.mem_filter_iff.mp hpage).2
  unfold ofScheme? at h
  dsimp only at h
  split at h
  next hkind =>
    obtain rfl := scheme_eq_file_of_kind hkind
    exact scheme_file? hbase h
  next => exact scheme_ofOther? h
  next =>
    split at h
    next page hpage =>
      split at h
      · exact (scheme_relative? h).trans (hbase page hpage)
      · exact scheme_ofAuthority? h
    next => exact scheme_ofAuthority? h

/-- An address has the scheme that its text names, or else the scheme of the page. -/
theorem scheme_parseFrom? {base : Option Url} {text : String} {u : Url}
    (h : parseFrom? base text = some u) :
    some u.scheme = (schemeOf? text).or (base.map (·.scheme)) := by
  unfold parseFrom? at h
  dsimp only at h
  unfold schemeOf?
  split at h
  next scheme rest hscheme => simp only [hscheme, Option.map_some, Option.some_or, scheme_ofScheme? h]
  next hscheme =>
    simp only [hscheme, Option.map_none, Option.none_or]
    split at h
    next => cases h
    next page rest =>
      cases h
      simp only [Option.map_some, scheme_withFragment]
    next _ page _ =>
      rw [Option.map_some]
      split at h
      · cases h
      · split at h
        next hkind =>
          have hpage : page.scheme = fileScheme := scheme_eq_file_of_kind hkind
          have hbase : ∀ other ∈ some page, other.scheme = fileScheme := by
            intro other hother
            rw [Option.mem_some] at hother
            rw [← hother, hpage]
          rw [scheme_file? hbase h, hpage]
        next => rw [scheme_relative? h]

/-! ### The scheme in a text -/

/-- The characters of a scheme. -/
def isSchemeChar (c : Char) : Bool := c.isAlphanum || c == '+' || c == '-' || c == '.'

/-- The name of a scheme: a letter, and further characters of schemes behind it. -/
def IsSchemeName (name : List Char) : Prop :=
  (∃ c ∈ name.head?, c.isAlpha = true) ∧ ∀ c ∈ name, isSchemeChar c = true

/-- A scheme as addresses have it, in small letters. -/
def IsScheme (scheme : List Char) : Prop :=
  IsSchemeName scheme ∧ scheme.map Char.toLower = scheme

theorem isSchemeChar_toLower {c : Char} (h : isSchemeChar c = true) :
    isSchemeChar c.toLower = true := by
  by_cases hupper : c.isUpper = true
  · have halpha : c.toLower.isAlpha = true := Text.isAlpha_toLower (Text.isAlpha_iff.mpr (Or.inl hupper))
    simp [isSchemeChar, Char.isAlphanum, halpha]
  · rwa [Text.toLower_of_not_isUpper hupper]

theorem IsSchemeName.isScheme_lower {name : List Char} (h : IsSchemeName name) :
    IsScheme (name.map Char.toLower) := by
  obtain ⟨⟨c, hc, halpha⟩, hchars⟩ := h
  refine ⟨⟨⟨c.toLower, ?_, ?_⟩, ?_⟩, ?_⟩
  · rw [List.head?_map, hc]
    rfl
  · exact Text.isAlpha_toLower halpha
  · intro d hd
    obtain ⟨e, he, rfl⟩ := List.mem_map.mp hd
    exact isSchemeChar_toLower (hchars e he)
  · rw [List.map_map]
    exact List.map_congr_left fun c _ => Text.toLower_toLower c

theorem scheme?_cons (c : Char) (cs : List Char) :
    scheme? (c :: cs) =
      match ((c :: cs).takeWhile isSchemeChar, (c :: cs).dropWhile isSchemeChar) with
      | (name, ':' :: rest) => if c.isAlpha then some (name.map Char.toLower, rest) else none
      | _ => none := by
  rw [scheme?]
  simp only [List.span_eq_takeWhile_dropWhile]
  rfl

/-- A text names a scheme if it begins with the name of the scheme and a colon. -/
theorem scheme?_eq_some_iff {cs scheme rest : List Char} :
    scheme? cs = some (scheme, rest) ↔
      ∃ name, cs = name ++ ':' :: rest ∧ IsSchemeName name ∧ name.map Char.toLower = scheme := by
  constructor
  · intro h
    cases cs with
    | nil => cases h
    | cons c cs =>
      rw [scheme?_cons] at h
      split at h
      next name behind hspan =>
        obtain ⟨rfl, hbehind⟩ := Prod.mk.inj hspan
        split at h
        next halpha =>
          cases h
          refine ⟨(c :: cs).takeWhile isSchemeChar, ?_, ⟨⟨c, ?_, halpha⟩, ?_⟩, rfl⟩
          · rw [← hbehind, List.takeWhile_append_dropWhile]
          · rw [List.takeWhile_cons_of_pos (by simp [isSchemeChar, Char.isAlphanum, halpha])]
            rfl
          · exact fun d hd => List.mem_takeWhile_imp hd
        next => cases h
      next => cases h
  · rintro ⟨name, rfl, ⟨⟨c, hc, halpha⟩, hchars⟩, rfl⟩
    obtain ⟨cs, rfl⟩ := List.head?_eq_some_iff.mp hc
    have hmark : isSchemeChar ':' = false := by decide
    rw [List.cons_append, scheme?_cons, ← List.cons_append, List.takeWhile_append_of_pos hchars,
      List.dropWhile_append_of_pos hchars, List.takeWhile_cons_of_neg (by simp [hmark]),
      List.dropWhile_cons_of_neg (by simp [hmark]), List.append_nil]
    exact if_pos halpha

/-- What a text begins with still stands at its beginning when characters that do not occur there are
taken from its end. -/
theorem exists_eq_append_of_drop_end {p : Char → Bool} {front : List Char}
    (hfront : ∀ c ∈ front, p c = false) (rest : List Char) :
    ∃ behind, ((front ++ rest).reverse.dropWhile p).reverse = front ++ behind := by
  have hkept : front.reverse.dropWhile p = front.reverse := by
    rw [List.dropWhile_eq_self_iff]
    intro hl
    rw [Bool.not_eq_true]
    exact hfront _ (List.mem_reverse.mp (List.getElem_mem hl))
  refine ⟨(rest.reverse.dropWhile p).reverse, ?_⟩
  rw [List.reverse_append, List.dropWhile_append, hkept]
  split
  next hempty => simp [List.isEmpty_iff.mp hempty]
  next => simp

/-- What a text begins with stands at the beginning of the cleaned text, if it has no blanks and no
control characters. -/
theorem cleaned_append {front : List Char} (hfront : ∀ c ∈ front, 0x20 < c.toNat)
    (hne : front ≠ []) (rest : List Char) : ∃ behind, cleaned (front ++ rest) = front ++ behind := by
  have hstart : (front ++ rest).dropWhile (fun c => c.toNat ≤ 0x20) = front ++ rest := by
    obtain ⟨c, cs, rfl⟩ := List.exists_cons_of_ne_nil hne
    exact List.dropWhile_cons_of_neg (by simpa using hfront c List.mem_cons_self)
  obtain ⟨behind, hbehind⟩ := exists_eq_append_of_drop_end
    (p := fun c => c.toNat ≤ 0x20) (fun c hc => by simpa using hfront c hc) rest
  have hkept : front.filter (fun c => !(c == '\t' || c == '\n' || c == '\r')) = front := by
    refine List.filter_eq_self.mpr fun c hc => ?_
    have hlarge := hfront c hc
    have htab : c ≠ '\t' := by rintro rfl; revert hlarge; decide
    have hfeed : c ≠ '\n' := by rintro rfl; revert hlarge; decide
    have hreturn : c ≠ '\r' := by rintro rfl; revert hlarge; decide
    simp [htab, hfeed, hreturn]
  refine ⟨behind.filter fun c => !(c == '\t' || c == '\n' || c == '\r'), ?_⟩
  rw [cleaned, hstart, hbehind, List.filter_append, hkept]

theorem toNat_of_isSchemeChar {c : Char} (h : isSchemeChar c = true) : 0x20 < c.toNat := by
  by_contra hsmall
  have hlist : ∀ n < 0x21, isSchemeChar (Char.ofNat n) = false := by decide
  have hc := hlist c.toNat (by omega)
  rw [Char.ofNat_toNat, h] at hc
  cases hc

theorem isScheme_schemeOf? {text : String} {scheme : List Char} (h : schemeOf? text = some scheme) :
    IsScheme scheme := by
  obtain ⟨⟨_, rest⟩, hnamed, rfl⟩ := Option.map_eq_some_iff.mp h
  obtain ⟨name, -, hname, rfl⟩ := scheme?_eq_some_iff.mp hnamed
  exact hname.isScheme_lower

/-- The scheme of an address that was read is a scheme. -/
theorem isScheme_parseFrom? {base : Option Url} (hbase : ∀ page ∈ base, IsScheme page.scheme)
    {text : String} {u : Url} (h : parseFrom? base text = some u) : IsScheme u.scheme := by
  have hscheme := scheme_parseFrom? h
  cases hnamed : schemeOf? text with
  | some scheme =>
    rw [hnamed, Option.some_or] at hscheme
    cases hscheme
    exact isScheme_schemeOf? hnamed
  | none =>
    rw [hnamed, Option.none_or] at hscheme
    obtain ⟨page, hpage, heq⟩ := Option.map_eq_some_iff.mp hscheme.symm
    rw [← heq]
    exact hbase page hpage

/-- The text that is written for an address names its scheme. -/
theorem schemeOf?_toString {u : Url} (h : IsScheme u.scheme) :
    schemeOf? u.toString = some u.scheme := by
  have hfront : ∀ c ∈ u.scheme ++ [':'], 0x20 < c.toNat := by
    intro c hc
    rcases List.mem_append.mp hc with hc | hc
    · exact toNat_of_isSchemeChar (h.1.2 c hc)
    · obtain rfl := List.mem_singleton.mp hc
      decide
  obtain ⟨behind, hbehind⟩ := cleaned_append hfront (by simp)
    ((u.authority.map Authority.written).getD [] ++ u.writtenPath ++ marked '?' u.query ++
      marked '#' u.fragment)
  have hcleaned : cleaned u.written = u.scheme ++ ':' :: behind := by
    rw [← List.append_cons] at hbehind
    rw [← List.singleton_append, ← List.append_assoc, ← hbehind]
    simp only [written, List.append_assoc, List.cons_append]
  have hnamed : scheme? (cleaned u.written) = some (u.scheme, behind) :=
    scheme?_eq_some_iff.mpr ⟨u.scheme, hcleaned, h.1, h.2⟩
  rw [schemeOf?, toString, String.toList_ofList, hnamed]
  rfl

end PageBlocks.Url

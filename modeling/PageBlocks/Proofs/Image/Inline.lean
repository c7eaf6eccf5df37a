import PageBlocks.Proofs.Convert.Uploads
import PageBlocks.Proofs.Text.Trim
import PageBlocks.Proofs.Url.Scheme

/-!
Inline images and the store. An image is inline if the address at which it would be fetched has the
scheme of inline images. The program decides this by the beginning of the source, before the address is
known; the two disagree where the source names the scheme only after control characters have been taken
out, and where the scheme comes from the address of the page.
-/
namespace PageBlocks.Image

variable {σ ρ : Type}

/-- The scheme of inline images. -/
def inlineScheme : List Char := "data".toList

/-- Whether a source that does not look inline leads to an address in the scheme of inline images: it
names the scheme for those who read addresses, or it names none and the page has this scheme. -/
def PassesAsRemote (baseUrl : Option String) (src : String) : Prop :=
  isInline src = false ∧
    (Url.schemeOf? src = some inlineScheme ∨
      Url.schemeOf? src = none ∧ ∃ page, baseUrl.bind Url.parse? = some page ∧
        page.scheme = inlineScheme ∧ (page.join? src).isSome = true)

/-! ### The scheme at which an image is fetched -/

theorem isScheme_parse? {text : String} {u : Url} (h : Url.parse? text = some u) :
    Url.IsScheme u.scheme :=
  Url.isScheme_parseFrom? (fun _ hpage => by cases hpage) h

/-- The address at which an image is fetched has the scheme that the source names, or else that of the
page, if the source leads anywhere from there. -/
theorem schemeOf?_resolveSource (src : String) (baseUrl : Option String) :
    Url.schemeOf? (resolveSource src baseUrl) =
      (Url.schemeOf? src).or (((baseUrl.bind Url.parse?).filter fun page =>
        (page.join? src).isSome).map (·.scheme)) := by
  unfold resolveSource
  by_cases halone : (Url.parse? src).isSome = true
  · obtain ⟨u, hu⟩ := Option.isSome_iff_exists.mp halone
    have hscheme := Url.scheme_parseFrom? hu
    rw [Option.map_none, Option.or_none] at hscheme
    rw [if_pos halone, ← hscheme, Option.some_or]
  · rw [if_neg halone]
    cases hpage : baseUrl.bind Url.parse? with
    | none => simp
    | some page =>
      rw [Option.bind_some]
      cases hjoined : page.join? src with
      | none => simp [Option.filter, hjoined]
      | some u =>
        have hpagescheme : Url.IsScheme page.scheme := by
          obtain ⟨base, -, hbase⟩ := Option.bind_eq_some_iff.mp hpage
          exact isScheme_parse? hbase
        have hproper : Url.IsScheme u.scheme := Url.isScheme_parseFrom?
          (fun other hother => by rwa [← Option.mem_some.mp hother]) hjoined
        rw [Url.schemeOf?_toString hproper, Url.scheme_parseFrom? hjoined]
        simp [Option.filter, hjoined]

/-- The address that is asked for is in the scheme of inline images exactly for the images that pass as
remote. -/
theorem request?_inline_iff (how : Placing) (i : ImageRef) :
    (∃ q ∈ how.request? i, Url.schemeOf? q.url = some inlineScheme) ↔
      how.upload = true ∧ PassesAsRemote how.baseUrl i.src := by
  have hscheme := schemeOf?_resolveSource i.src how.baseUrl
  unfold Placing.request? PassesAsRemote
  cases hupload : how.upload with
  | false => simp
  | true =>
    cases hinline : isInline i.src with
    | true => simp
    | false =>
      simp only [Bool.not_true, Bool.or_self, Bool.false_eq_true, if_false, Option.mem_some,
        exists_eq_left', hscheme, true_and]
      cases hnamed : Url.schemeOf? i.src with
      | some scheme => simp
      | none =>
        rw [Option.none_or, Option.map_eq_some_iff]
        simp only [Option.filter_eq_some_iff, reduceCtorEq, false_or, true_and, and_assoc]
        exact exists_congr fun page => and_congr_right fun _ => and_comm

theorem requests_inline_iff (how : Placing) (is : List ImageRef) :
    (∃ q ∈ how.requests is, Url.schemeOf? q.url = some inlineScheme) ↔
      how.upload = true ∧ ∃ i ∈ is, PassesAsRemote how.baseUrl i.src := by
  calc
    (∃ q ∈ how.requests is, Url.schemeOf? q.url = some inlineScheme)
      ↔ ∃ i ∈ is, ∃ q ∈ how.request? i, Url.schemeOf? q.url = some inlineScheme := by
        simp only [Placing.requests, List.mem_filterMap, Option.mem_def]
        constructor
        · rintro ⟨q, ⟨i, hi, hq⟩, hscheme⟩
          exact ⟨i, hi, q, hq, hscheme⟩
        · rintro ⟨i, hi, q, hq, hscheme⟩
          exact ⟨q, ⟨i, hi, hq⟩, hscheme⟩
    _ ↔ ∃ i ∈ is, how.upload = true ∧ PassesAsRemote how.baseUrl i.src := by
        simp only [request?_inline_iff]
    _ ↔ how.upload = true ∧ ∃ i ∈ is, PassesAsRemote how.baseUrl i.src := by
        constructor
        · rintro ⟨i, hi, hupload, hpasses⟩
          exact ⟨hupload, i, hi, hpasses⟩
        · rintro ⟨hupload, i, hi, hpasses⟩
          exact ⟨i, hi, hupload, hpasses⟩

/-- The calls of a run of requests ask for an inline image if one of the requests does. -/
theorem calls_inline_iff (store : Store σ) (s : σ) (qs : List UploadRequest) :
    (∃ call ∈ (store.serve s qs).1, Url.schemeOf? call.request.url = some inlineScheme) ↔
      ∃ q ∈ qs, Url.schemeOf? q.url = some inlineScheme := by
  conv_rhs => rw [← store.requests_serve s qs]
  simp only [List.mem_map, exists_exists_and_eq_and]

/-- Placing images asks the store for an address in the scheme of inline images exactly if images are
uploaded and one of the images passes as remote, whatever the store and whatever has come before. -/
theorem placeBlocks_asks_inline_iff (store : Store σ) (how : Placing) (s : σ) (earlier : List Call)
    (failures : List Failure) (bs : List (Block ImageRef)) :
    ∃ calls, (placeBlocks store.recorded how ⟨(s, earlier), failures⟩ bs).2.store.2 = earlier ++ calls ∧
      ((∃ call ∈ calls, Url.schemeOf? call.request.url = some inlineScheme) ↔
        how.upload = true ∧ ∃ i ∈ imagesOf bs, PassesAsRemote how.baseUrl i.src) := by
  refine ⟨(store.serve s (how.requests (imagesOf bs))).1, ?_, ?_⟩
  · rw [placeBlocks_eq, Progress.store_after, Store.serve_recorded]
  · rw [calls_inline_iff, requests_inline_iff]

/-- A tab in its scheme hides an inline image from the program, though not from those who read its
address; and on a page whose address is inline, so is a reference to a part of the page. -/
theorem placeBlocks_asks_hidden :
    (¬ ∀ call ∈ (placeBlocks (Store.none : Store Unit).recorded ⟨true, none⟩ (.start ((), []))
      [.image ⟨"da\tta:image/png;base64,AAAA", none, none⟩]).2.store.2,
        Url.schemeOf? call.request.url ≠ some inlineScheme) ∧
    ¬ ∀ call ∈ (placeBlocks (Store.none : Store Unit).recorded ⟨true, some "data:text/plain,x"⟩
      (.start ((), [])) [.image ⟨"#a", none, none⟩]).2.store.2,
        Url.schemeOf? call.request.url ≠ some inlineScheme := by
  decide +kernel

/-! ### Where the beginning of a source decides -/

/-- What a text without control characters looks like when it is cleaned: spaces are taken from its
beginning, and something from its end. -/
theorem exists_spaces_cleaned {cs : List Char} (hplain : ∀ c ∈ cs, 0x20 ≤ c.toNat) :
    ∃ spaces behind, cs = spaces ++ (Url.cleaned cs ++ behind) ∧ ∀ c ∈ spaces, c = ' ' := by
  let isTrimmed (c : Char) : Bool := c.toNat ≤ 0x20
  obtain ⟨behind, hbehind⟩ : ((cs.dropWhile isTrimmed).reverse.dropWhile isTrimmed).reverse <+:
      cs.dropWhile isTrimmed := by
    rw [← List.reverse_suffix, List.reverse_reverse]
    exact List.dropWhile_suffix isTrimmed
  have hcleaned : Url.cleaned cs = ((cs.dropWhile isTrimmed).reverse.dropWhile isTrimmed).reverse := by
    refine List.filter_eq_self.mpr fun c hc => ?_
    have hlarge := hplain c ((List.dropWhile_suffix isTrimmed).subset (hbehind ▸ List.mem_append_left _ hc))
    have htab : c ≠ '\t' := by rintro rfl; revert hlarge; decide
    have hfeed : c ≠ '\n' := by rintro rfl; revert hlarge; decide
    have hreturn : c ≠ '\r' := by rintro rfl; revert hlarge; decide
    simp [htab, hfeed, hreturn]
  refine ⟨cs.takeWhile isTrimmed, behind, ?_, ?_⟩
  · rw [hcleaned, hbehind, List.takeWhile_append_dropWhile]
  · intro c hc
    have htrimmed : isTrimmed c = true := List.mem_takeWhile_imp hc
    have hsmall : c.toNat ≤ 0x20 := of_decide_eq_true htrimmed
    have hlarge := hplain c ((List.takeWhile_prefix isTrimmed).subset hc)
    rw [← Char.ofNat_toNat c, Nat.le_antisymm hsmall hlarge]

/-- A source without control characters that names the scheme of inline images looks inline. -/
theorem isInline_of_schemeOf? {src : String} (hplain : ∀ c ∈ src.toList, 0x20 ≤ c.toNat)
    (h : Url.schemeOf? src = some inlineScheme) : isInline src = true := by
  obtain ⟨⟨_, rest⟩, hnamed, rfl⟩ := Option.map_eq_some_iff.mp h
  obtain ⟨name, hcleaned, ⟨⟨c, hc, halpha⟩, -⟩, hname⟩ := Url.scheme?_eq_some_iff.mp hnamed
  obtain ⟨spaces, behind, hsrc, hspaces⟩ := exists_spaces_cleaned hplain
  obtain ⟨cs, rfl⟩ := List.head?_eq_some_iff.mp hc
  have hletter : Text.isBlank c = false :=
    Text.isBlank_of_isAlphanum (by rw [Char.isAlphanum, halpha, Bool.true_or])
  have hlength : (c :: cs).length = 4 := by
    rw [← List.length_map (f := Char.toLower), hname]
    rfl
  have hstart : Text.trimStartChars src.toList = (c :: cs) ++ ':' :: (rest ++ behind) := by
    rw [hsrc, hcleaned, Text.trimStartChars, List.dropWhile_append_of_pos]
    · rw [List.append_assoc]
      exact List.dropWhile_cons_of_neg (by simp [hletter])
    · intro d hd
      rw [hspaces d hd]
      rfl
  have htake : (Text.trimStartChars src.toList).take 5 = (c :: cs) ++ [':'] := by
    rw [hstart, List.take_append, hlength, List.take_of_length_le (by omega)]
    rfl
  rw [isInline, htake, List.map_append, hname]
  rfl

/-- From a page whose address is not itself inline, images whose sources have no control characters are
never asked for at an address in the scheme of inline images. -/
theorem placeBlocks_never_asks_inline (store : Store σ) (how : Placing) (s : σ)
    (bs : List (Block ImageRef)) (hplain : ∀ i ∈ imagesOf bs, ∀ c ∈ i.src.toList, 0x20 ≤ c.toNat)
    (hpage : ∀ page, how.baseUrl.bind Url.parse? = some page → page.scheme ≠ inlineScheme) :
    ∀ call ∈ (placeBlocks store.recorded how (.start (s, [])) bs).2.store.2,
      Url.schemeOf? call.request.url ≠ some inlineScheme := by
  intro call hcall hscheme
  rw [Progress.start, placeBlocks_eq, Progress.store_after, Store.serve_recorded,
    List.nil_append] at hcall
  have hasked := (calls_inline_iff store s _).mp ⟨call, hcall, hscheme⟩
  obtain ⟨-, i, hi, hinline, hnamed | ⟨-, page, hparsed, hdata, -⟩⟩ :=
    (requests_inline_iff how _).mp hasked
  · rw [isInline_of_schemeOf? (hplain i hi) hnamed] at hinline
    cases hinline
  · exact hpage page hparsed hdata

end PageBlocks.Image

/-! ### Conversions -/

namespace PageBlocks.Converter

open Image

variable {σ ρ : Type}

/-- A conversion asks the store for an address in the scheme of inline images exactly if images are
uploaded and one of the images of the page, the featured image among them, passes as remote. -/
theorem convertPage_asks_inline_iff (c : Converter σ) (words : WordSource ρ) (source : ρ) (s : σ)
    (builder : Builder) (o : Options) (d : Markup.Document) :
    (∃ call ∈ (c.recorded.convertPage words source (s, []) builder o d).2.2,
      Url.schemeOf? call.request.url = some inlineScheme) ↔
    o.uploadImages = true ∧ ∃ i ∈ imagesInOrder c.config.stamps builder o
      (Page.Parts.of o.extractHeaderFooter (Page.withoutStyles d)), PassesAsRemote o.baseUrl i.src := by
  obtain ⟨hstate, -⟩ := c.recorded.convertPage_images words source (s, []) builder o d
  rw [hstate, recorded, Store.serve_recorded, List.nil_append, calls_inline_iff, requests_inline_iff]

end PageBlocks.Converter

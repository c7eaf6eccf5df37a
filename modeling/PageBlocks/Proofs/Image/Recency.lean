import Mathlib.Data.List.Induction
import PageBlocks.Image.Cache
import PageBlocks.Proofs.Image.Calls

/-!
A cache over a whole run of requests. What it remembers are the addresses that succeeded last, as many as
there is room for, each with what the store said when it was asked for it last. A request reaches the
store if and only if its address is not remembered.
-/
namespace PageBlocks.Image

/-! ### Lists without repetitions -/

section

variable {α : Type} [BEq α] [LawfulBEq α]

theorem eraseDups_filter (p : α → Bool) (l : List α) :
    (l.filter p).eraseDups = l.eraseDups.filter p := by
  induction h : l.length using Nat.strongRecOn generalizing l with
  | ind n ih =>
    cases l with
    | nil => rfl
    | cons a l =>
      have hrest := ih (l.filter fun b => !b == a).length
        (by simpa [← h] using Nat.lt_succ_of_le (List.length_filter_le _ l)) _ rfl
      have hcomm : (l.filter p).filter (fun b => !b == a) =
          (l.filter fun b => !b == a).filter p := by
        rw [List.filter_filter, List.filter_filter]
        exact List.filter_congr fun b _ => Bool.and_comm ..
      rw [List.eraseDups_cons, List.filter_cons, List.filter_cons]
      cases hp : p a with
      | true => rw [if_pos rfl, if_pos rfl, List.eraseDups_cons, hcomm, hrest]
      | false =>
        -- no `a` is left that the second filter could remove
        have hsame : (l.filter p).filter (fun b => !b == a) = l.filter p := by
          rw [List.filter_eq_self]
          intro b hb
          rw [Bool.not_eq_true', beq_eq_false_iff_ne]
          rintro rfl
          simp [hp] at hb
        rw [if_neg (by simp), if_neg (by simp), ← hrest, ← hcomm, hsame]

theorem nodup_eraseDups (l : List α) : l.eraseDups.Nodup := by
  induction h : l.length using Nat.strongRecOn generalizing l with
  | ind n ih =>
    cases l with
    | nil => exact List.nodup_nil
    | cons a l =>
      have hrest := ih (l.filter fun b => !b == a).length
        (by simpa [← h] using Nat.lt_succ_of_le (List.length_filter_le _ l)) _ rfl
      rw [List.eraseDups_cons]
      exact List.nodup_cons.mpr ⟨by simp, hrest⟩

/-- Of a list without repetitions, one member more than needed is enough to leave one out. -/
theorem take_filter_take {l : List α} (h : l.Nodup) (a : α) (n : Nat) :
    ((l.take (n + 1)).filter (· != a)).take n = (l.filter (· != a)).take n := by
  induction l generalizing n with
  | nil => simp
  | cons b l ih =>
    obtain ⟨hb, hl⟩ := List.nodup_cons.mp h
    rw [List.take_succ_cons, List.filter_cons, List.filter_cons]
    by_cases hba : b = a
    · subst hba
      have hnone : ∀ k, (l.take k).filter (· != b) = l.take k := by
        intro k
        rw [List.filter_eq_self]
        intro c hc
        rw [bne_iff_ne]
        rintro rfl
        exact hb (List.mem_of_mem_take hc)
      have hall : l.filter (· != b) = l := by simpa using hnone l.length
      simp [hnone, hall, List.take_take]
    · cases n with
      | zero => simp
      | succ n => simp [hba, ih hl n]

end

/-! ### Remembered addresses -/

namespace Cache

/-- The addresses that are remembered, the latest first. -/
def urls (c : Cache) : List String := c.entries.map (·.1)

theorem get?_eq_none_iff (c : Cache) (url : String) : c.get? url = none ↔ url ∉ c.urls := by
  rw [get?, List.lookup_eq_none_iff, urls, List.mem_map]
  constructor
  · rintro h ⟨entry, hentry, rfl⟩
    simpa using h entry hentry
  · intro h entry hentry
    rw [bne_iff_ne]
    rintro rfl
    exact h ⟨entry, hentry, rfl⟩

theorem mem_of_get? {c : Cache} {url : String} {a : Attachment} (h : c.get? url = some a) :
    (url, a) ∈ c.entries := by
  obtain ⟨before, after, hentries, -⟩ := List.lookup_eq_some_iff.mp h
  rw [hentries]
  simp

theorem urls_insert (c : Cache) (url : String) (a : Attachment) :
    (c.insert url a).urls = (url :: c.urls.filter (· != url)).take c.capacity := by
  simp [urls, insert, without, List.map_take, List.filter_map, Function.comp_def]

theorem mem_insert {c : Cache} {url : String} {a : Attachment} {entry : String × Attachment}
    (h : entry ∈ (c.insert url a).entries) :
    entry = (url, a) ∨ entry ∈ c.entries ∧ entry.1 ≠ url := by
  have hmem := List.mem_of_mem_take h
  rw [List.mem_cons, without, List.mem_filter, bne_iff_ne] at hmem
  exact hmem

end Cache

variable {σ : Type}

/-- The last call for an address. -/
def lastCall? (calls : List Call) (url : String) : Option Call :=
  calls.reverse.find? fun call => call.request.url == url

theorem lastCall?_concat (calls : List Call) (call : Call) (url : String) :
    lastCall? (calls ++ [call]) url =
      if call.request.url = url then some call else lastCall? calls url := by
  by_cases h : call.request.url = url <;> simp [lastCall?, h]

/-- The addresses that were asked for with success, each once, the latest first. -/
def recency (calls : List Call) : List String := (calls.filterMap Call.storedUrl?).reverse.eraseDups

theorem recency_stored (calls : List Call) (q : UploadRequest) (a : Attachment) :
    recency (calls ++ [(⟨q, .stored a⟩ : Call)]) = q.url :: (recency calls).filter (· != q.url) := by
  have hnew : (calls ++ [(⟨q, .stored a⟩ : Call)]).filterMap Call.storedUrl? =
      calls.filterMap Call.storedUrl? ++ [q.url] := by
    rw [List.filterMap_append]
    rfl
  rw [recency, hnew, List.reverse_append, List.reverse_singleton, List.singleton_append,
    List.eraseDups_cons, eraseDups_filter]
  rfl

theorem recency_refused (calls : List Call) (q : UploadRequest) (reason : String) :
    recency (calls ++ [⟨q, .refused reason⟩]) = recency calls := by
  have hnone : [(⟨q, .refused reason⟩ : Call)].filterMap Call.storedUrl? = [] := rfl
  rw [recency, List.filterMap_append, hnone, List.append_nil]
  rfl

/-! ### Requests to a store behind a cache -/

/-- A request goes one of three ways: its address is remembered, or the store takes the image in, or it
refuses. -/
theorem Store.cached_cases (inner : Store σ) (c : Cache) (s : σ) (q : UploadRequest) :
    (∃ a, c.get? q.url = some a ∧
      inner.cached (c, s) q = (.stored a, c.insert q.url a, s)) ∨
    (∃ a, c.get? q.url = Option.none ∧ (inner s q).1 = .stored a ∧
      inner.cached (c, s) q = (.stored a, c.insert q.url a, (inner s q).2)) ∨
    (∃ reason, c.get? q.url = Option.none ∧ (inner s q).1 = .refused reason ∧
      inner.cached (c, s) q = (.refused reason, c, (inner s q).2)) := by
  cases hget : c.get? q.url with
  | some a => exact .inl ⟨a, rfl, by simp [cached, hget]⟩
  | none =>
    cases houtcome : (inner s q).1 with
    | stored a => exact .inr (.inl ⟨a, rfl, rfl, by simp [cached, hget, houtcome]⟩)
    | refused reason => exact .inr (.inr ⟨reason, rfl, rfl, by simp [cached, hget, houtcome]⟩)

/-- What a cache for `n` images holds after it has answered `answers`, when `reached` are the calls that
went on to the store. -/
structure Cache.Follows (n : Nat) (answers reached : List Call) (c : Cache) : Prop where
  capacity : c.capacity = max 1 n
  urls : c.urls = (recency answers).take (max 1 n)
  latest : ∀ entry ∈ c.entries,
    (lastCall? reached entry.1).map (·.outcome) = some (.stored entry.2)

theorem Cache.follows_empty (n : Nat) : Cache.Follows n [] [] (.empty n) :=
  ⟨rfl, by simp [Cache.urls, Cache.empty, recency], by simp [Cache.empty]⟩

/-- The addresses that remain when one more has succeeded. -/
theorem Cache.Follows.urls_insert {n : Nat} {answers reached : List Call} {c : Cache}
    (h : c.Follows n answers reached) (q : UploadRequest) (a : Attachment) :
    (c.insert q.url a).urls = (recency (answers ++ [⟨q, .stored a⟩])).take (max 1 n) := by
  obtain ⟨room, hroom⟩ : ∃ room, max 1 n = room + 1 := ⟨max 1 n - 1, by omega⟩
  rw [Cache.urls_insert, h.capacity, h.urls, recency_stored, hroom, List.take_succ_cons,
    List.take_succ_cons, recency, take_filter_take (nodup_eraseDups _)]

/-- One request keeps the cache in step with the calls. -/
theorem Cache.Follows.step {n : Nat} {answers reached : List Call} {c : Cache}
    (h : c.Follows n answers reached) (inner : Store σ) (s : σ) (q : UploadRequest) :
    let next := inner.recorded.cached (c, s, reached) q
    next.2.1.Follows n (answers ++ [⟨q, next.1⟩]) next.2.2.2 := by
  rcases Store.cached_cases inner.recorded c (s, reached) q with
    ⟨a, hget, hnext⟩ | ⟨a, -, houtcome, hnext⟩ | ⟨reason, hget, houtcome, hnext⟩
  · simp only [hnext]
    refine ⟨h.capacity, h.urls_insert q a, fun entry hentry => ?_⟩
    rcases Cache.mem_insert hentry with rfl | ⟨hold, -⟩
    · exact h.latest _ (Cache.mem_of_get? hget)
    · exact h.latest _ hold
  · simp only [hnext]
    refine ⟨h.capacity, h.urls_insert q a, fun entry hentry => ?_⟩
    have hreached : (inner.recorded (s, reached) q).2.2 = reached ++ [⟨q, .stored a⟩] := by
      rw [← houtcome]
      rfl
    rw [hreached, lastCall?_concat]
    rcases Cache.mem_insert hentry with rfl | ⟨hold, hne⟩
    · simp
    · rw [if_neg (Ne.symm hne)]
      exact h.latest _ hold
  · simp only [hnext]
    refine ⟨h.capacity, by rw [recency_refused]; exact h.urls, fun entry hentry => ?_⟩
    have hreached : (inner.recorded (s, reached) q).2.2 = reached ++ [⟨q, .refused reason⟩] := by
      rw [← houtcome]
      rfl
    have hne : q.url ≠ entry.1 := by
      rintro he
      exact (c.get?_eq_none_iff q.url).mp hget (he ▸ List.mem_map_of_mem hentry)
    rw [hreached, lastCall?_concat, if_neg hne]
    exact h.latest _ hentry

/-- A whole run of requests keeps the cache in step with the calls. -/
theorem Cache.follows_serve (inner : Store σ) (n : Nat) (s : σ) (qs : List UploadRequest) :
    let run := inner.recorded.cached.serve (.empty n, s, []) qs
    run.2.1.Follows n run.1 run.2.2.2 := by
  induction qs using List.reverseRecOn with
  | nil => exact Cache.follows_empty n
  | append_singleton qs q ih =>
    simp only [Store.serve_append] at ih ⊢
    exact ih.step inner _ q

/-- Whether a request reaches the store, and which calls have reached it then. -/
theorem Store.reached_cached (inner : Store σ) (c : Cache) (s : σ) (reached : List Call)
    (q : UploadRequest) :
    (inner.recorded.cached (c, s, reached) q).2.2.2 = reached ++
      if q.url ∈ c.urls then [] else [⟨q, (inner.recorded.cached (c, s, reached) q).1⟩] := by
  rcases Store.cached_cases inner.recorded c (s, reached) q with
    ⟨a, hget, hnext⟩ | ⟨a, hget, houtcome, hnext⟩ | ⟨reason, hget, houtcome, hnext⟩
  · have hmem : q.url ∈ c.urls := List.mem_map_of_mem (Cache.mem_of_get? hget)
    simp [hnext, hmem]
  all_goals
    have hmem : q.url ∉ c.urls := (c.get?_eq_none_iff q.url).mp hget
    simp only [hnext, if_neg hmem, ← houtcome]
    rfl

/-- What is remembered is the answer. -/
theorem Cache.Follows.answer {n : Nat} {answers reached : List Call} {c : Cache}
    (h : c.Follows n answers reached) (inner : Store σ) (s : σ) (q : UploadRequest)
    {entry : String × Attachment} (hentry : entry ∈ c.entries) (hurl : entry.1 = q.url) :
    (inner.cached (c, s) q).1 = .stored entry.2 := by
  have hmem : q.url ∈ c.urls := hurl ▸ List.mem_map_of_mem hentry
  rcases Store.cached_cases inner c s q with ⟨a, hget, hnext⟩ | ⟨a, hget, -⟩ | ⟨reason, hget, -⟩
  · have hlast := h.latest _ (mem_of_get? hget)
    rw [← hurl, h.latest entry hentry] at hlast
    rw [hnext]
    exact (Option.some.inj hlast).symm
  · exact absurd hmem ((c.get?_eq_none_iff q.url).mp hget)
  · exact absurd hmem ((c.get?_eq_none_iff q.url).mp hget)

/-- A cache for `n` images in front of any store, after any requests. It remembers the addresses that
succeeded last, with what the store said when it was last asked for them. A further request is answered
from memory if its address is remembered, and reaches the store if and only if it is not; if it fails, the
cache stays as it is, and the next request for the address reaches the store again. -/
theorem recency_of_serve_cached (inner : Store σ) (n : Nat) (s : σ) (qs : List UploadRequest) :
    let run := inner.recorded.cached.serve (Cache.empty n, s, []) qs
    let cache := run.2.1
    let reached := run.2.2.2
    cache.urls = ((run.1.filterMap Call.storedUrl?).reverse.eraseDups).take (max 1 n) ∧
    (∀ entry ∈ cache.entries,
      (lastCall? reached entry.1).map (·.outcome) = some (.stored entry.2)) ∧
    ∀ q : UploadRequest,
      let next := inner.recorded.cached run.2 q
      (∀ entry ∈ cache.entries, entry.1 = q.url → next.1 = .stored entry.2) ∧
      next.2.2.2 = reached ++ (if q.url ∈ cache.urls then [] else [⟨q, next.1⟩]) ∧
      ∀ reason, next.1 = .refused reason →
        next.2.1 = cache ∧
        ∀ again : UploadRequest, again.url = q.url →
          (inner.recorded.cached next.2 again).2.2.2 =
            next.2.2.2 ++ [⟨again, (inner.recorded.cached next.2 again).1⟩] := by
  intro run cache reached
  have hfollows := Cache.follows_serve inner n s qs
  refine ⟨hfollows.urls, hfollows.latest, fun q => ⟨fun entry => hfollows.answer _ _ q,
    Store.reached_cached inner _ _ _ q, fun reason hrefused => ?_⟩⟩
  rcases Store.cached_cases inner.recorded cache run.2.2 q with
    ⟨a, -, hnext⟩ | ⟨a, -, -, hnext⟩ | ⟨reason', hget, -, hnext⟩
  · cases (congrArg Prod.fst hnext).symm.trans hrefused
  · cases (congrArg Prod.fst hnext).symm.trans hrefused
  · have hcache : (inner.recorded.cached run.2 q).2.1 = cache := congrArg (·.2.1) hnext
    refine ⟨hcache, fun again hagain => ?_⟩
    have hmem : again.url ∉ (inner.recorded.cached run.2 q).2.1.urls := by
      rw [hcache, hagain]
      exact (cache.get?_eq_none_iff q.url).mp hget
    exact (Store.reached_cached inner _ _ _ again).trans (by rw [if_neg hmem])

end PageBlocks.Image

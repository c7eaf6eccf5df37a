import PageBlocks.Proofs.Convert.Alike
import PageBlocks.Proofs.Image.Recency

/-!
Sessions of conversions with a cache. If what the store answers hangs on the address alone, a cache before
it only ever repeats what the store would say, so a page is converted in a session as it would be alone,
and the order of the pages does not matter.
-/
namespace PageBlocks

open Image

variable {σ : Type}

namespace Image

/-- What is remembered is what the store answers. -/
def Cache.Knows (answer : String → Outcome) (c : Cache) : Prop :=
  ∀ entry ∈ c.entries, answer entry.1 = .stored entry.2

theorem Cache.knows_empty (answer : String → Outcome) (capacity : Nat) :
    (empty capacity).Knows answer := by
  intro entry hentry
  cases hentry

theorem Cache.Knows.insert {answer : String → Outcome} {c : Cache} (h : c.Knows answer) {url : String}
    {a : Attachment} (ha : answer url = .stored a) : (c.insert url a).Knows answer := by
  intro entry hentry
  rcases mem_insert hentry with rfl | ⟨hold, -⟩
  · exact ha
  · exact h entry hold

/-- As long as the cache knows what the store answers, the store behind it answers as it does alone, in
whatever state. -/
theorem Store.cached_alike {store : Store σ} {answer : String → Outcome}
    (h : store.AnswersBy answer) :
    Alike (fun (s : Cache × σ) (_ : σ) => s.1.Knows answer) store.cached store := by
  rintro ⟨c, s⟩ t hknows q
  have hanswer : (store s q).1 = answer q.url ∧ (store t q).1 = answer q.url := ⟨h s q, h t q⟩
  rcases cached_cases store c s q with
    ⟨a, hget, hnext⟩ | ⟨a, -, houtcome, hnext⟩ | ⟨reason, -, houtcome, hnext⟩
  · have ha : answer q.url = .stored a := hknows _ (Cache.mem_of_get? hget)
    rw [hnext, hanswer.2, ha]
    exact ⟨rfl, hknows.insert ha⟩
  · have ha : answer q.url = .stored a := hanswer.1.symm.trans houtcome
    rw [hnext, hanswer.2, ha]
    exact ⟨rfl, hknows.insert ha⟩
  · have ha : answer q.url = .refused reason := hanswer.1.symm.trans houtcome
    rw [hnext, hanswer.2, ha]
    exact ⟨rfl, hknows⟩

end Image

namespace Converter

/-- With a store whose answers hang on the address alone, and with a seed of ids, a session of conversions
behind a cache gives for each page what a converter without the cache gives for it alone, whatever the
state of the store then. So the results change places with the pages. -/
theorem convertAll_cached (store : Store σ) (answer : String → Outcome)
    (hanswer : store.AnswersBy answer) (config : Config) (seed : UInt64)
    (hseed : config.idSeed = some seed) (active : Option Builder) (capacity : Nat)
    (entropy entropy' : UInt64) (s s' : σ) (pages : List (String × Options)) :
    let session (pages : List (String × Options)) : List Conversion :=
      (Converter.convertAll ⟨config, store.cached, active, entropy⟩ (.empty capacity, s) pages).1
    let alone (page : String × Options) : Conversion :=
      (Converter.convert ⟨config, store, active, entropy'⟩ s' page.1 page.2).1
    session pages = pages.map alone ∧
    ∀ pages', pages.Perm pages' →
      (pages.zip (session pages)).Perm (pages'.zip (session pages')) := by
  intro session alone
  have halike : Alike (fun (s : Cache × σ) (_ : σ) => s.1.Knows answer)
      ⟨config, store.cached, active, entropy⟩ ⟨config, store, active, entropy'⟩ :=
    ⟨rfl, rfl, by simp only [hseed, Option.getD_some], Store.cached_alike hanswer⟩
  have hall (pages : List (String × Options)) : session pages = pages.map alone :=
    halike.convertAll (Cache.knows_empty answer capacity) s' pages
  refine ⟨hall pages, fun pages' hperm => ?_⟩
  have hzip (pages : List (String × Options)) :
      pages.zip (session pages) = pages.map fun page => (page, alone page) := by
    rw [hall]
    simpa using List.zip_map' (f := id) (g := alone) (l := pages)
  rw [hzip, hzip]
  exact hperm.map _

/-- A page that needs one image twice and lacks another one, and a page that needs both again. -/
def sharedImages : List (String × Options) :=
  [("<img src=http://x.test/a.png><img src=b.png><img src=http://x.test/a.png>", {}),
    ("<header><img src=b.png></header><img src=http://x.test/a.png>", { target := .fixed .divi })]

theorem convertAll_cached_sharedImages :
    let store : Store Unit := .ofTable [("http://x.test/a.png", ⟨7, "http://cdn.test/a.png"⟩)]
    let config : Config := { idSeed := some 42 }
    let session (pages : List (String × Options)) : List Conversion :=
      (Converter.convertAll ⟨config, store.cached, none, 0⟩ (.empty 1, ()) pages).1
    store.AnswersBy (Store.lookUp [("http://x.test/a.png", ⟨7, "http://cdn.test/a.png"⟩)]) ∧
    config.idSeed = some 42 ∧
    session sharedImages = sharedImages.map (fun page =>
      (Converter.convert ⟨config, store, none, 1⟩ () page.1 page.2).1) ∧
    (sharedImages.zip (session sharedImages)).Perm
      (sharedImages.reverse.zip (session sharedImages.reverse)) := by
  intro store config session
  have hanswer : store.AnswersBy
      (Store.lookUp [("http://x.test/a.png", ⟨7, "http://cdn.test/a.png"⟩)]) := fun _ _ => rfl
  obtain ⟨halone, hperm⟩ := convertAll_cached store _ hanswer config 42 rfl none 1 0 1 () () sharedImages
  exact ⟨hanswer, rfl, halone, hperm _ sharedImages.reverse_perm.symm⟩

end Converter

end PageBlocks

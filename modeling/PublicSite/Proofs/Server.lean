import PublicSite.Http.Service
import PublicSite.Proofs.Failure
import PublicSite.Proofs.Registry
import PublicSite.Server

/-!
# What a started server holds

Every feature of a site that was put together is found in it, in the state that
its start leaves.
-/

namespace PublicSite

namespace Feature

theorem all_nodup : all.Nodup := by
  decide

theorem mem_all (key : Feature) : key ∈ all := by
  cases key <;> decide

theorem start_seo (config : Config) :
    Feature.seo.start config =
      ((Seo.ofConfig config).mapError .seo).map fun seo => ⟨.seo, seo⟩ :=
  rfl

theorem start_identity (config : Config) :
    Feature.identity.start config =
      ((Identity.ofConfig config).mapError .identity).map fun identity =>
        ⟨.identity, identity⟩ :=
  rfl

theorem start_key {key : Feature} {config : Config} {started : Started}
    (starts : key.start config = .ok started) : started.key = key := by
  cases key with
  | locale | booking => rw [← Except.ok.inj starts]
  | seo =>
      rw [start_seo] at starts
      obtain ⟨state, _, same⟩ := map_eq_ok starts
      rw [← same]
  | identity =>
      rw [start_identity] at starts
      obtain ⟨state, _, same⟩ := map_eq_ok starts
      rw [← same]

/-- Features are started in the order given, each on its own. -/
theorem startEach_ok {config : Config} {features : List Feature} {started : List Started}
    (starts : startEach config features = .ok started) :
    started.map FeatureEntry.key = features ∧
      ∀ entry ∈ started, entry.key.start config = .ok entry := by
  induction features generalizing started with
  | nil =>
      obtain rfl := Except.ok.inj starts
      exact ⟨rfl, List.forall_mem_nil _⟩
  | cons first rest ih =>
      obtain ⟨entry, startsFirst, next⟩ := bind_eq_ok starts
      obtain ⟨others, startsOthers, finished⟩ := bind_eq_ok next
      have keyFirst := start_key startsFirst
      obtain ⟨keys, each⟩ := ih startsOthers
      rw [← Except.ok.inj finished]
      refine ⟨by rw [List.map_cons, keyFirst, keys], ?_⟩
      exact List.forall_mem_cons.mpr ⟨keyFirst.symm ▸ startsFirst, each⟩

/-- The search profile that is left is the one that the configuration gives. -/
theorem seo_of_start {config : Config} {seo : Seo}
    (starts : Feature.seo.start config = .ok ⟨.seo, seo⟩) : Seo.ofConfig config = .ok seo := by
  rw [start_seo] at starts
  obtain ⟨state, accepted, same⟩ := map_eq_ok starts
  have same : state = seo := by simpa using same
  rw [← same]
  exact mapError_eq_ok accepted

end Feature

namespace Server

variable {fileExists : String → Bool} {config : Config} {site : Site}

/-- Every feature was started and is found. -/
theorem feature_of_build (built : build fileExists config = .ok site) (key : Feature) :
    ∃ state, key.start config = .ok ⟨key, state⟩ ∧ Http.feature site key = .ok state := by
  obtain ⟨_, _, next⟩ := bind_eq_ok built
  obtain ⟨started, starts, next⟩ := bind_eq_ok next
  obtain ⟨keys, each⟩ := Feature.startEach_ok (mapError_eq_ok starts)
  dsimp only at next
  rw [StateBuilder.foldl_register] at next
  have isKey : key ∈ started.map FeatureEntry.key := keys ▸ Feature.mem_all key
  obtain ⟨entry, member, isEntry⟩ := List.mem_map.mp isKey
  have found : (Registry.empty.registerAll started).get? entry.key = some entry.state :=
    Registry.get?_registerAll_of_mem (keys ▸ Feature.all_nodup) member Registry.empty
  subst isEntry
  refine ⟨entry.state, each entry member, ?_⟩
  have registry_eq : site.registry = Registry.empty.registerAll started := by
    rw [← Except.ok.inj (mapError_eq_ok next)]
    rfl
  simp only [Http.feature, SiteState.require, SiteState.get?, registry_eq, found]

/-- The pages of the site are those of the configuration. -/
theorem pageFeatures_of_build (built : build fileExists config = .ok site) :
    ∃ seo, Seo.ofConfig config = .ok seo ∧
      Http.pageFeatures site = .ok (seo, Locales.ofConfig config) := by
  obtain ⟨seo, startsSeo, foundSeo⟩ := feature_of_build built .seo
  obtain ⟨locales, startsLocales, foundLocales⟩ := feature_of_build built .locale
  have same : Locales.ofConfig config = locales := by
    simpa [Feature.start] using startsLocales
  refine ⟨seo, Feature.seo_of_start startsSeo, ?_⟩
  rw [Http.pageFeatures, foundSeo, foundLocales, ← same]
  rfl

/-- A site that configures nothing starts. -/
theorem build_empty : ∃ site, build (fun _ => true) {} = .ok site :=
  exists_eq_ok_of_isOk (by decide +kernel)

end Server

end PublicSite

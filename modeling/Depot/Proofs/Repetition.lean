import Depot.Proofs.Counterparts
import Depot.Proofs.FirstCome
import Depot.Proofs.SharedVerdicts

/-!
The same download twice. What was found out about repositories and builds is known when it is asked
for again, so the second download begins with trying the candidates, and in a world that does not
change it ends as the first one did.
-/

namespace Depot

open Http Normalization Repository Run

/-- In the same world, all that is kept in one session is kept in the other one as well. -/
structure Session.Extends (s' s : Session) : Prop where
  world : s'.world = s.world
  normalized : s.normalized <+: s'.normalized
  metadata : s.metadata <+: s'.metadata

namespace Session.Extends

variable {s s' s'' : Session}

theorem refl (s : Session) : s.Extends s := ⟨rfl, List.prefix_rfl, List.prefix_rfl⟩

theorem trans (h : s''.Extends s') (h' : s'.Extends s) : s''.Extends s :=
  ⟨h.world.trans h'.world, h'.normalized.trans h.normalized, h'.metadata.trans h.metadata⟩

theorem of_bare_eq (h : s'.bare = s.bare) : s'.Extends s where
  world := world_eq_of_bare_eq h
  normalized := normalized_eq_of_bare_eq h ▸ List.prefix_rfl
  metadata := metadata_eq_of_bare_eq h ▸ List.prefix_rfl

theorem putNormalized (h : s'.Extends s) (key : Normalization.Key) (usable : Bool) :
    { s' with normalized := s'.normalized.put key usable }.Extends s :=
  ⟨h.world, h.normalized.trans (Cache.prefix_put _ _ _), h.metadata⟩

theorem putMetadata (h : s'.Extends s) (key : Metadata.Key) (m : Option Metadata) :
    { s' with metadata := s'.metadata.put key m }.Extends s :=
  ⟨h.world, h.normalized, h.metadata.trans (Cache.prefix_put _ _ _)⟩

end Session.Extends

namespace Run

variable {α β : Type}

/-- Nothing is forgotten, and whoever knows what the run has learned has its answer without doing
anything. -/
def Recalls (x : Run α) : Prop :=
  ∀ s, (x s).2.Extends s ∧ ∀ s' : Session, s'.Extends (x s).2 → x s' = ((x s).1, s')

namespace Recalls

theorem pure (a : α) : Recalls (pure a) := fun s => ⟨.refl s, fun _ _ => rfl⟩

theorem bind {x : Run α} {f : α → Run β} (hx : Recalls x) (hf : ∀ a, Recalls (f a)) :
    Recalls (x >>= f) := by
  intro s
  obtain ⟨hgrown, hagain⟩ := hx s
  obtain ⟨hgrown', hagain'⟩ := hf (x s).1 (x s).2
  -- What `x` learned is still known after `f`, so whoever knows the end knows it as well.
  refine ⟨hgrown'.trans hgrown, fun s' hs' => ?_⟩
  rw [bind_apply, hagain s' (Session.Extends.trans hs' hgrown'), hagain' s' hs', bind_apply]

theorem foldlM {step : β → α → Run β} (h : ∀ b a, Recalls (step b a)) (as : List α) (b : β) :
    Recalls (as.foldlM step b) := by
  induction as generalizing b with
  | nil => exact .pure b
  | cons a as ih =>
      rw [List.foldlM_cons]
      exact (h b a).bind ih

theorem of_cached {κ γ : Type} [BEq κ] {x : Run α} (cache : Session → Cache κ γ)
    (hgrows : ∀ {s s' : Session}, s'.Extends s → cache s <+: cache s') (key : κ) (answer : γ → α)
    (hhit : ∀ {s value}, (cache s).get? key = some value → x s = (answer value, s))
    (hmiss : ∀ s, (cache s).get? key = none → ∃ value s', x s = (answer value, s') ∧
      s'.Extends s ∧ (cache s').get? key = some value) : Recalls x := by
  intro s
  cases hvalue : (cache s).get? key with
  | some value =>
      rw [hhit hvalue]
      exact ⟨.refl s, fun s' hs' => hhit ((hgrows hs').lookup_eq_some hvalue)⟩
  | none =>
      obtain ⟨value, s₁, hx, hgrown, hput⟩ := hmiss s hvalue
      rw [hx]
      exact ⟨hgrown, fun s' hs' => hhit ((hgrows hs').lookup_eq_some hput)⟩

end Recalls

end Run

variable {c : Configuration}

-- What verdicts and documents say is of no interest here.
attribute [local irreducible] verdict Resolution.lookUp

theorem Normalization.normalize_recalls (r : Repository) : Recalls (normalize c r) := by
  refine .of_cached Session.normalized Session.Extends.normalized (key r.canonical)
    (answer r.canonical) normalize_of_some fun s hvalue => ?_
  rw [normalize_of_none hvalue]
  rcases hheld : Session.hold (verdict c s.lookup r.canonical) s with ⟨usable, s₁⟩
  have hbare := s.bare_hold (verdict c s.lookup r.canonical)
  rw [hheld] at hbare
  have hcache := Session.normalized_eq_of_bare_eq hbare
  exact ⟨usable, _, rfl, (Session.Extends.of_bare_eq hbare).putNormalized _ _,
    Cache.get?_put_self (hcache ▸ hvalue) usable⟩

namespace Resolution

theorem resolve_recalls (settings : Settings) (a : Access) (ga : GroupArtifact)
    (versionDirectory : Option String) : Recalls (resolve settings a ga versionDirectory) := by
  refine .of_cached Session.metadata Session.Extends.metadata (key a ga versionDirectory) id
    resolve_of_some fun s hvalue => ?_
  rw [resolve_of_none hvalue]
  have hbare := (lookUp_keeps (Scope.reading.sparesReading_bare s.bare)
    (Scope.covered_reading settings ga versionDirectory a) s rfl).1
  rcases hlooked : lookUp settings a ga versionDirectory s with ⟨m, s₁⟩
  rw [hlooked] at hbare
  have hcache := Session.metadata_eq_of_bare_eq hbare
  exact ⟨m, _, rfl, (Session.Extends.of_bare_eq hbare).putMetadata _ _,
    Cache.get?_put_self (hcache ▸ hvalue) m⟩

end Resolution

namespace Download

variable {artifact : Artifact} {preferred : Option Repository} {rs : List Repository}

theorem candidates_recalls (c : Configuration) (preferred : Option Repository)
    (rs : List Repository) : Recalls (candidates c preferred rs) := by
  refine .foldlM (fun found r => (normalize_recalls r).bind fun answer => ?_) _ _
  split
  · exact .pure _
  · split <;> exact .pure _

theorem fileVersion_recalls (c : Configuration) (artifact : Artifact) (usable : List Access) :
    Recalls (fileVersion c artifact usable) := by
  unfold fileVersion
  dsimp only
  split
  · refine .bind (.foldlM (fun merged a => ?_) _ _) fun _ => .pure _
    exact (Resolution.resolve_recalls c.settings a _ _).bind fun _ => .pure _
  · exact .pure _

/-- In a steady world it does not matter when the candidates are tried. -/
theorem tryAll_steady {s s' : Session} (hw : s.network.IsSteady) (h : s'.world = s.world)
    (text : String) (as : List Access) :
    (tryAll c artifact text as s').1 = (tryAll c artifact text as s).1 := by
  have hfetch (a : Access) : a.FetchAlike (Session.Bares s'.bare s.bare) c.settings a :=
    Access.ReadsAlike.fetchAlike hw ⟨rfl, fun _ _ => rfl⟩ h rfl
  have htwins : List.Forall₂ (fun a a' => Access.Twins Eq a a' ∧
      (a.repository.accepts artifact.coordinates.version →
        a.FetchAlike (Session.Bares s'.bare s.bare) c.settings a')) as as :=
    List.forall₂_same.2 fun a _ => ⟨⟨rfl, rfl⟩, fun _ => hfetch a⟩
  exact eq_of_errorOr_twins
    (tryAll_matches text rfl isTwinning_eq htwins s' s ⟨rfl, rfl⟩).2

/-- A download that is repeated in a world that does not change ends as before, and so do the
caches. Repositories are not asked again whether they are there, nor is metadata asked for: without
anything being done the candidates are the same as before, and so is the version in the file's name.
All that is read are copies of the file, from candidates that accept its version. -/
theorem downloadArtifact_repeats (c : Configuration) (artifact : Artifact)
    (preferred : Option Repository) (rs : List Repository) (s : Session)
    (hw : s.network.IsSteady) :
    let once := downloadArtifact c artifact preferred rs s
    let again := downloadArtifact c artifact preferred rs once.2
    let found := candidates c preferred rs s
    let text := (fileVersion c artifact found.1.usable found.2).1
    again.1 = once.1 ∧
    again.2.normalized = once.2.normalized ∧ again.2.metadata = once.2.metadata ∧
    candidates c preferred rs once.2 = (found.1, once.2) ∧
    fileVersion c artifact found.1.usable once.2 = (text, once.2) ∧
    Session.Within (readScope c.settings artifact text
      (found.1.usable.filter fun a => a.repository.accepts artifact.coordinates.version))
      once.2 again.2 := by
  intro once again found text
  obtain ⟨hgrown₁, hrecalled₁⟩ := candidates_recalls c preferred rs s
  obtain ⟨hgrown₂, hrecalled₂⟩ := fileVersion_recalls c artifact found.1.usable found.2
  let s₂ := (fileVersion c artifact found.1.usable found.2).2
  -- The candidates and the version are recalled, so only what is read of the candidates is left.
  have honce : once = (conclude artifact text found.1 (tryAll c artifact text found.1.usable s₂).1,
      (tryAll c artifact text found.1.usable s₂).2) := downloadArtifact_apply rfl rfl
  have hkept (s : Session) : (tryAll c artifact text found.1.usable s).2.bare = s.bare :=
    (tryAll_keeps (Scope.reading.sparesReading_bare s.bare)
      (fun a _ _ path _ => Scope.covers_reading c.settings a path) s rfl).1
  have hbare : once.2.bare = s₂.bare := honce ▸ hkept s₂
  have hsince : once.2.Extends s₂ := .of_bare_eq hbare
  have hcandidates : candidates c preferred rs once.2 = (found.1, once.2) :=
    hrecalled₁ once.2 (hsince.trans hgrown₂)
  have hnamed : fileVersion c artifact found.1.usable once.2 = (text, once.2) :=
    hrecalled₂ once.2 hsince
  have hagain : again = (conclude artifact text found.1
      (tryAll c artifact text found.1.usable once.2).1,
      (tryAll c artifact text found.1.usable once.2).2) := downloadArtifact_apply hcandidates hnamed
  have hbare' : again.2.bare = once.2.bare := hagain ▸ hkept once.2
  have hnetwork : s₂.network = s.network := congrArg World.network (hgrown₂.trans hgrown₁).world
  refine ⟨?_, Session.normalized_eq_of_bare_eq hbare', Session.metadata_eq_of_bare_eq hbare',
    hcandidates, hnamed, ?_⟩
  · calc again.1
        = conclude artifact text found.1 (tryAll c artifact text found.1.usable once.2).1 :=
          congrArg Prod.fst hagain
      _ = conclude artifact text found.1 (tryAll c artifact text found.1.usable s₂).1 := by
          rw [tryAll_steady (hnetwork ▸ hw) hsince.world]
      _ = once.1 := (congrArg Prod.fst honce).symm
  · rw [hagain]
    refine (tryAll_keeps (Scope.spares_within _ once.2).toSparesReading
      (fun a ha haccepts path hpath => ?_) once.2 (.refl _ _)).1
    exact covers_readScope (List.mem_filter.2 ⟨ha, haccepts⟩) hpath

/-- A server that has the same for everybody. -/
theorem downloadArtifact_repeats_found :
    let artifact : Artifact := ⟨⟨"g", "a", .release "1"⟩, none, "jar"⟩
    let rs : List Repository := [{ id := "a", uri := "http://a.b" }]
    let s : Session := { network := ⟨fun _ _ => .works, fun _ _ => { body := [120] }⟩ }
    let once := downloadArtifact {} artifact none rs s
    s.network.IsSteady ∧ once.1.toOption.map Resolved.content = some [120] ∧
      (downloadArtifact {} artifact none rs once.2).1 = once.1 := by
  intro artifact rs s once
  have hw : s.network.IsSteady := ⟨fun _ _ _ => rfl, fun _ _ _ => rfl⟩
  exact ⟨hw, by decide +kernel, (downloadArtifact_repeats {} artifact none rs s hw).1⟩

end Download

end Depot

/-
# Where the state of a site is kept

The heads, the history, the channels and the releases of a published site stand in files and
directories that are named after the URI of the site (`localhost.rs`).  A name keeps the letters,
digits, dots and hyphens of the URI, without their case, and has an underscore for everything else.

So two sites share all of their state exactly when their URIs are alike in what a name keeps of
them (`site_state_separate_iff`).
-/
import ElastosRuntime.Localhost.Storage
import Mathlib.Data.List.Forall2

namespace ElastosRuntime.Localhost

open Text

/-! ## 1. Names and paths -/

def PUBLISHER_ROOT_URI : String := "localhost://ElastOS/SystemServices/Publisher"
def EDGE_ROOT_URI : String := "localhost://ElastOS/SystemServices/Edge"

/-- The characters that a name keeps. -/
def kept (ch : Char) : Bool := isAsciiAlphanumeric ch || ch == '.' || ch == '-'

def edgeStateChar (ch : Char) : Char := if kept ch then toAsciiLowercase ch else '_'

def sanitizeEdgeStateName (value : String) : String :=
  String.ofList (value.toList.map edgeStateChar)

/-- The directory of a root that must be there. -/
def expectedRoot (baseDir : List String) (uri : String) : List String :=
  (rootedLocalhostFsPath baseDir uri).getD baseDir

section

variable (baseDir : List String) (targetUri name : String)

def publisherSiteReleasesDir : List String :=
  push (push (expectedRoot baseDir PUBLISHER_ROOT_URI) "SiteReleases")
    (sanitizeEdgeStateName targetUri)

def publisherSiteReleasePath : List String :=
  push (publisherSiteReleasesDir baseDir targetUri) (sanitizeEdgeStateName name ++ ".json")

def edgeSiteHeadPath : List String :=
  push (push (expectedRoot baseDir EDGE_ROOT_URI) "SiteHeads")
    (sanitizeEdgeStateName targetUri ++ ".json")

def edgeSiteHistoryDir : List String :=
  push (push (expectedRoot baseDir EDGE_ROOT_URI) "SiteHistory") (sanitizeEdgeStateName targetUri)

def edgeReleaseChannelsDir : List String :=
  push (push (expectedRoot baseDir EDGE_ROOT_URI) "ReleaseChannels")
    (sanitizeEdgeStateName targetUri)

def edgeReleaseChannelPath : List String :=
  push (edgeReleaseChannelsDir baseDir targetUri) (sanitizeEdgeStateName name ++ ".json")

end

/-- The state of two sites is kept apart: their heads, histories, channels and releases, whatever
the channels and the releases are called. -/
structure Separate (u v : String) : Prop where
  head : ∀ baseDir, edgeSiteHeadPath baseDir u ≠ edgeSiteHeadPath baseDir v
  history : ∀ baseDir, edgeSiteHistoryDir baseDir u ≠ edgeSiteHistoryDir baseDir v
  channels : ∀ baseDir, edgeReleaseChannelsDir baseDir u ≠ edgeReleaseChannelsDir baseDir v
  channel : ∀ baseDir name name',
    edgeReleaseChannelPath baseDir u name ≠ edgeReleaseChannelPath baseDir v name'
  releases : ∀ baseDir, publisherSiteReleasesDir baseDir u ≠ publisherSiteReleasesDir baseDir v
  release : ∀ baseDir name name',
    publisherSiteReleasePath baseDir u name ≠ publisherSiteReleasePath baseDir v name'

/-- The same character up to the case of a letter, or two that no name keeps. -/
def Alike (c d : Char) : Prop :=
  if kept c then kept d ∧ toAsciiLowercase c = toAsciiLowercase d else kept d = false

/-! ## 2. A name is one component -/

theorem kept_toAsciiLowercase {ch : Char} (h : kept ch = true) :
    kept (toAsciiLowercase ch) = true := by
  by_cases hupper : 0x41 ≤ ch.toNat ∧ ch.toNat ≤ 0x5a
  · have hlower : (toAsciiLowercase ch).toNat = ch.toNat + 0x20 := by
      rw [toNat_toAsciiLowercase, if_pos hupper]
    simp only [kept, isAsciiAlphanumeric, Bool.or_eq_true, Bool.and_eq_true, decide_eq_true_eq]
    exact .inl (.inl (.inr ⟨by omega, by omega⟩))
  · rwa [toAsciiLowercase, if_neg hupper]

/-- A name has no character that it does not keep, but the underscore. -/
theorem edgeStateChar_ne {ch x : Char} (hkept : kept x = false) (hx : x ≠ '_') :
    edgeStateChar ch ≠ x := by
  rintro rfl
  unfold edgeStateChar at hkept hx
  split at hkept
  · next hch =>
    rw [kept_toAsciiLowercase hch] at hkept
    cases hkept
  · next hch => exact hx (if_neg hch)

theorem toList_sanitize (value : String) :
    (sanitizeEdgeStateName value).toList = value.toList.map edgeStateChar := by
  rw [sanitizeEdgeStateName, String.toList_ofList]

theorem notMem_sanitize {value : String} {x : Char} (hkept : kept x = false) (hx : x ≠ '_') :
    x ∉ (sanitizeEdgeStateName value).toList := by
  rw [toList_sanitize]
  intro h
  obtain ⟨ch, -, hch⟩ := List.mem_map.mp h
  exact edgeStateChar_ne hkept hx hch

/-- A text of more than two characters without slashes is a component. -/
theorem normal_of_length {component : String} (hlength : 2 < component.toList.length)
    (hslash : '/' ∉ component.toList) (hbackslash : '\\' ∉ component.toList) :
    Normal component := by
  have hne : ∀ short : String, short.toList.length ≤ 2 → component ≠ short := by
    rintro short hshort rfl
    omega
  exact ⟨hne _ (by decide), hne _ (by decide), hne _ (by decide), hslash, hbackslash⟩

theorem normal_sanitize_json (value : String) :
    Normal (sanitizeEdgeStateName value ++ ".json") := by
  have hjson : ".json".toList = ['.', 'j', 's', 'o', 'n'] := by decide
  refine normal_of_length ?_ ?_ ?_ <;> rw [String.toList_append, hjson]
  · rw [List.length_append]
    exact Nat.lt_of_lt_of_le (by decide) (Nat.le_add_left 5 _)
  · rw [List.mem_append, not_or]
    exact ⟨notMem_sanitize (by decide) (by decide), by decide⟩
  · rw [List.mem_append, not_or]
    exact ⟨notMem_sanitize (by decide) (by decide), by decide⟩

theorem normal_sanitize {u s : String} (h : rootedLocalhostUri s = some u) :
    Normal (sanitizeEdgeStateName u) := by
  refine normal_of_length ?_ (notMem_sanitize (by decide) (by decide))
    (notMem_sanitize (by decide) (by decide))
  rw [rootedLocalhostUri_eq, Option.map_eq_some_iff] at h
  obtain ⟨⟨root, rest⟩, -, rfl⟩ := h
  obtain ⟨tail, huri, -⟩ := toList_localhostUri root rest
  have hscheme : "localhost://".toList.length = 12 := by decide
  rw [toList_sanitize, List.length_map, huri, List.length_append, hscheme]
  omega

theorem edgeStateChar_eq_iff {c d : Char} : edgeStateChar c = edgeStateChar d ↔ Alike c d := by
  have hunder : ∀ ch, kept ch = true → toAsciiLowercase ch ≠ '_' := by
    intro ch hch hsame
    have hkept := kept_toAsciiLowercase hch
    rw [hsame] at hkept
    exact absurd hkept (by decide)
  unfold edgeStateChar Alike
  by_cases hc : kept c = true <;> by_cases hd : kept d = true
  · simp [hc, hd]
  · simp [hc, hd, hunder c hc]
  · simp [hc, hd, Ne.symm (hunder d hd)]
  · simp [hc, hd]

theorem sanitize_eq_iff {u v : String} :
    sanitizeEdgeStateName u = sanitizeEdgeStateName v ↔ List.Forall₂ Alike u.toList v.toList := by
  rw [← String.toList_inj, toList_sanitize, toList_sanitize, ← List.forall₂_eq_eq_eq,
    List.forall₂_map_left_iff, List.forall₂_map_right_iff]
  exact ⟨fun h => h.imp fun _ _ => edgeStateChar_eq_iff.mp,
    fun h => h.imp fun _ _ => edgeStateChar_eq_iff.mpr⟩

/-! ## 3. Sites whose state is kept apart -/

/-- **The state of two sites is kept apart** exactly when their URIs differ in length, or somewhere
in more than the case of a letter or a character that no name keeps. -/
theorem site_state_separate_iff (s t u v : String) (hu : rootedLocalhostUri s = some u)
    (hv : rootedLocalhostUri t = some v) :
    Separate u v ↔ ¬List.Forall₂ Alike u.toList v.toList := by
  rw [← sanitize_eq_iff]
  have hnu := normal_sanitize hu
  have hnv := normal_sanitize hv
  constructor
  · intro h hsame
    exact h.history [] (by rw [edgeSiteHistoryDir, edgeSiteHistoryDir, hsame])
  · intro hne
    have hdir : ∀ path : List String, push path (sanitizeEdgeStateName u) ≠
        push path (sanitizeEdgeStateName v) := by
      intro path h
      rw [push_of_normal hnu, push_of_normal hnv] at h
      exact hne (List.singleton_inj.mp (List.append_cancel_left h))
    have hfile : ∀ (path : List String) (name name' : String),
        push (push path (sanitizeEdgeStateName u)) (sanitizeEdgeStateName name ++ ".json") ≠
          push (push path (sanitizeEdgeStateName v)) (sanitizeEdgeStateName name' ++ ".json") := by
      intro path name name' h
      rw [push_of_normal (normal_sanitize_json name),
        push_of_normal (normal_sanitize_json name')] at h
      exact hdir path (List.append_inj_left' h rfl)
    refine ⟨fun baseDir h => ?_, fun _ => hdir _, fun _ => hdir _,
      fun _ name name' => hfile _ name name', fun _ => hdir _,
      fun _ name name' => hfile _ name name'⟩
    rw [edgeSiteHeadPath, edgeSiteHeadPath, push_of_normal (normal_sanitize_json u),
      push_of_normal (normal_sanitize_json v)] at h
    have hnames := List.singleton_inj.mp (List.append_cancel_left h)
    exact hne ((String.append_left_inj ".json").mp hnames)

theorem site_state_separate_sample : Separate "localhost://Public/a" "localhost://Public/b" := by
  refine (site_state_separate_iff "Public/a" "Public/b" "localhost://Public/a"
    "localhost://Public/b" (by decide +kernel) (by decide +kernel)).mpr fun h => ?_
  have hsame := sanitize_eq_iff.mpr h
  exact absurd hsame (by decide +kernel)

/-- Two directories whose names differ in the case of a letter: both are sites, in different
files, and they share one head. -/
theorem site_state_shared :
    rootedLocalhostUri "Public/Blog" = some "localhost://Public/Blog" ∧
      rootedLocalhostUri "Public/blog" = some "localhost://Public/blog" ∧
      rootedLocalhostFsPath [] "localhost://Public/Blog" = some ["Public", "Blog"] ∧
      rootedLocalhostFsPath [] "localhost://Public/blog" = some ["Public", "blog"] ∧
      edgeSiteHeadPath [] "localhost://Public/Blog" =
        edgeSiteHeadPath [] "localhost://Public/blog" := by
  refine ⟨by decide +kernel, by decide +kernel, by decide +kernel, by decide +kernel, ?_⟩
  have hsame : sanitizeEdgeStateName "localhost://Public/Blog" =
      sanitizeEdgeStateName "localhost://Public/blog" := by decide +kernel
  rw [edgeSiteHeadPath, edgeSiteHeadPath, hsame]

end ElastosRuntime.Localhost

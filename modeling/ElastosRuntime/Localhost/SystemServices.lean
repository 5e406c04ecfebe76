/-
# The files of Runtime's own services

Files beneath `ElastOS/SystemServices` belong to Runtime, and a manifest that asks for such a URI is
refused.  The test it is refused by knows one spelling of these URIs; the files have more.
`confined_and_protected_iff` says that a path never leaves the roots, and that the test recognises
a URI of these files unless it is written with blanks or slashes that reading it drops.
-/
import ElastosRuntime.Localhost.Paths

namespace ElastosRuntime.Localhost

open Text

/-! ## 1. The ways to write such a URI -/

def SERVICES : List String := ["ElastOS", "SystemServices"]

/-- The letters of a URI: what stands before the root, how many more slashes there are than needed,
and what stands behind the name of the services. -/
def serviceUri (before : List Char) (n : Nat) (after : List Char) : List Char :=
  "localhost://".toList ++ (before ++ "ElastOS".toList ++ ('/' :: (List.replicate n '/' ++
    ("SystemServices".toList ++ after))))

/-- A way to write a URI of a file of the services. -/
structure ServicePath (u : String) (before : List Char) (n : Nat) (after : List Char) : Prop where
  letters : u.toList = serviceUri before n after
  leadIn : LeadIn '/' before
  behind : Behind '/' after
  normal : ∀ piece ∈ segments '/' (trimEnd '/' after), Normal (String.ofList piece)

/-- It is written with blanks or slashes in front of the root, with more slashes behind it than one,
or with blanks behind the name of the services. -/
def Respelled (u : String) : Prop :=
  ∃ before n after, ServicePath u before n after ∧
    (before ≠ [] ∨ 0 < n ∨ after ≠ [] ∧ ∀ x ∈ after, isWhitespace x = true)

section

variable {u : String} {before after : List Char} {n : Nat} {base p : List String}

theorem firm_services : Firm '/' "SystemServices".toList :=
  ⟨by decide, isWhitespace_of_any_eq_false (by decide +kernel), by decide⟩

theorem trimEnd_append {l name : List Char} (hname : Firm '/' name) :
    trimEnd '/' (l ++ name ++ after) = l ++ name ++ trimEnd '/' after := by
  have hother : ∀ x ∈ name, (x == '/') = false := fun x hx => beq_eq_false_iff_ne.mpr fun h =>
    hname.single (h ▸ hx)
  rw [trimEnd, rdropWhile_append_name hname.ne_nil hname.solid,
    rdropWhile_append_name hname.ne_nil hother, trimEnd]

/-- What trimming leaves behind the root. -/
theorem trimEnd_behind_root :
    trimEnd '/' ('/' :: (List.replicate n '/' ++ ("SystemServices".toList ++ after))) =
      '/' :: (List.replicate n '/' ++ ("SystemServices".toList ++ trimEnd '/' after)) := by
  have htrim : trimEnd '/' ('/' :: List.replicate n '/' ++ "SystemServices".toList ++ after) =
      '/' :: List.replicate n '/' ++ "SystemServices".toList ++ trimEnd '/' after :=
    trimEnd_append firm_services
  simpa only [List.cons_append, List.append_assoc] using htrim

theorem startsWith_iff {s pre : String} :
    startsWith s pre = true ↔ ∃ rest, s.toList = pre.toList ++ rest := by
  rw [startsWith, List.isPrefixOf_iff_prefix]
  exact exists_congr fun rest => eq_comm

theorem stripPrefix_eq_some {s pre : String} {rest : List Char} (h : s.toList = pre.toList ++ rest) :
    stripPrefix s pre = some (String.ofList rest) := by
  rw [stripPrefix_eq_some_iff, ← String.toList_inj, String.toList_append, String.toList_ofList, h]

/-- How a URI is read. -/
theorem readPath_uri {rest : List Char} (hu : u.toList = "localhost://".toList ++ rest) :
    readPath u = parseLocalhostPath (String.ofList rest) := by
  rw [readPath, if_pos (startsWith_iff.mpr ⟨rest, hu⟩), parseLocalhostUri, stripPrefix_eq_some hu,
    Option.bind_eq_bind, Option.bind_some]

/-- **Which URIs name a file of the services.** -/
theorem reaches_services_iff (base : List String) (u : String) :
    (startsWith u "localhost://" = true ∧
      ∃ p, rootedLocalhostFsPath base u = some p ∧ base ++ SERVICES <+: p) ↔
      ∃ before n after, ServicePath u before n after := by
  constructor
  · rintro ⟨hstart, p, hp, hbeneath⟩
    obtain ⟨path, hu⟩ := startsWith_iff.mp hstart
    obtain ⟨root, rest, hread, -, hnormal, rfl⟩ := rootedLocalhostFsPath_eq_some.mp hp
    rw [List.prefix_append_right_inj, SERVICES, List.cons_prefix_cons] at hbeneath
    obtain ⟨rfl, hbeneath⟩ := hbeneath
    rw [readPath_uri hu, parseLocalhostPath_eq_some, String.toList_ofList] at hread
    obtain ⟨-, after₀, ⟨before, hbefore, rfl, hbehind⟩, rfl⟩ := hread
    -- something is left behind the root, so a slash follows it
    rcases behind_iff.mp hbehind with hnone | ⟨tail, htail⟩
    · rw [hnone] at hbeneath
      exact absurd hbeneath (by decide)
    rw [htail, List.drop_one, List.tail_cons] at hbeneath hnormal
    obtain ⟨others, hothers⟩ := hbeneath
    have hpieces : segments '/' tail = "SystemServices".toList :: others.map String.toList := by
      rw [pieces, String.toList_ofList] at hothers
      have hmap := congrArg (List.map String.toList) hothers
      rw [List.map_map] at hmap
      have hid : String.toList ∘ String.ofList = id := funext fun chars => String.toList_ofList
      rw [hid, List.map_id] at hmap
      exact hmap.symm
    obtain ⟨n, rest, rfl, hends, hmore⟩ :=
      (segments_eq_cons_iff firm_services.single firm_services.ne_nil).mp hpieces
    obtain ⟨post, hpost⟩ := trimEnd_prefix '/' after₀
    rw [htail] at hpost
    have hafter₀ : after₀ = '/' :: (List.replicate n '/' ++
        ("SystemServices".toList ++ (rest ++ post))) := by
      rw [← hpost]
      simp only [List.cons_append, List.append_assoc]
    have htrim : trimEnd '/' (rest ++ post) = rest := by
      rw [hafter₀, trimEnd_behind_root, List.cons.injEq] at htail
      exact List.append_cancel_left (List.append_cancel_left htail.2)
    refine ⟨before, n, rest ++ post, ⟨?_, hbefore, behind_iff.mpr ?_, ?_⟩⟩
    · rw [hafter₀] at hu
      exact hu
    · rw [htrim]
      exact hends
    · intro piece hpiece
      rw [htrim] at hpiece
      refine hnormal _ (List.mem_map_of_mem ?_)
      rw [String.toList_ofList, hpieces]
      exact List.mem_cons_of_mem _ (hmore ▸ hpiece)
  · rintro ⟨before, n, after, hpath⟩
    refine ⟨startsWith_iff.mpr ⟨_, hpath.letters⟩, ?_⟩
    have hread : readPath u = some ("ElastOS", String.ofList (List.replicate n '/' ++
        ("SystemServices".toList ++ trimEnd '/' after))) := by
      rw [readPath_uri hpath.letters, parseLocalhostPath_eq_some, String.toList_ofList]
      refine ⟨by decide, _, ⟨before, hpath.leadIn, rfl, Or.inl ⟨_, rfl⟩⟩, ?_⟩
      rw [trimEnd_behind_root]
      rfl
    have hpieces : pieces (String.ofList (List.replicate n '/' ++
        ("SystemServices".toList ++ trimEnd '/' after))) =
          "SystemServices" :: (segments '/' (trimEnd '/' after)).map String.ofList := by
      rw [pieces, String.toList_ofList, (segments_eq_cons_iff firm_services.single
        firm_services.ne_nil).mpr ⟨n, _, rfl, behind_iff.mp hpath.behind, rfl⟩, List.map_cons,
        String.ofList_toList]
    refine ⟨_, rootedLocalhostFsPath_eq_some.mpr ⟨_, _, hread, by decide, ?_, rfl⟩, ?_⟩
    · rw [hpieces, List.forall_mem_cons]
      refine ⟨⟨by decide, by decide, by decide, by decide, by decide⟩, fun component hmem => ?_⟩
      obtain ⟨piece, hpiece, rfl⟩ := List.mem_map.mp hmem
      exact hpath.normal piece hpiece
    · rw [hpieces, List.prefix_append_right_inj]
      exact ⟨_, rfl⟩

/-! ## 2. What the test recognises -/

theorem leadIn_head {x : Char} (h : LeadIn '/' (x :: before)) : isWhitespace x = true ∨ x = '/' := by
  obtain ⟨blanks, separators, hsplit, hblanks, hseparators⟩ := h
  cases blanks with
  | nil =>
    rw [List.nil_append] at hsplit
    exact Or.inr (hseparators x (hsplit ▸ List.mem_cons_self))
  | cons y blanks =>
    obtain ⟨rfl, -⟩ := List.cons.inj hsplit
    exact Or.inl (hblanks x List.mem_cons_self)

theorem isRuntime_iff (h : ServicePath u before n after) :
    isRuntimeSystemServiceResource u = true ↔
      before = [] ∧ n = 0 ∧ (after = [] ∨ ∃ tail, after = '/' :: tail) := by
  have htest : isRuntimeSystemServiceResource u = true ↔
      (before ++ "ElastOS".toList ++ ('/' :: (List.replicate n '/' ++
        ("SystemServices".toList ++ after)))) = "ElastOS/SystemServices".toList ∨
      ∃ rest, (before ++ "ElastOS".toList ++ ('/' :: (List.replicate n '/' ++
        ("SystemServices".toList ++ after)))) = "ElastOS/SystemServices/".toList ++ rest := by
    rw [isRuntimeSystemServiceResource, stripPrefix_eq_some h.letters]
    simp only [Bool.or_eq_true, beq_iff_eq, startsWith_iff, ← String.toList_inj,
      String.toList_ofList]
  have hname : "ElastOS/SystemServices".toList = "ElastOS".toList ++ '/' ::
      "SystemServices".toList := by decide
  have hnameSlash : "ElastOS/SystemServices/".toList = "ElastOS".toList ++ '/' ::
      ("SystemServices".toList ++ ['/']) := by decide
  rw [htest, hname, hnameSlash]
  constructor
  · intro hsame
    obtain ⟨more, hmore⟩ : ∃ more, before ++ "ElastOS".toList ++ ('/' :: (List.replicate n '/' ++
        ("SystemServices".toList ++ after))) =
          "ElastOS".toList ++ '/' :: ("SystemServices".toList ++ more) ∧
            (more = [] ∨ ∃ tail, more = '/' :: tail) := by
      rcases hsame with hexact | ⟨rest, hrest⟩
      · exact ⟨[], by rw [hexact, List.append_nil], Or.inl rfl⟩
      · exact ⟨'/' :: rest, by rw [hrest]; simp only [List.append_assoc, List.cons_append,
          List.nil_append], Or.inr ⟨rest, rfl⟩⟩
    have hbefore : before = [] := by
      cases before with
      | nil => rfl
      | cons x before =>
        have hx : x = 'E' := (List.cons.inj hmore.1).1
        rcases leadIn_head h.leadIn with hblank | hslash
        · rw [hx] at hblank
          exact absurd hblank (by decide)
        · rw [hx] at hslash
          exact absurd hslash (by decide)
    rw [hbefore, List.nil_append] at hmore
    have htail := (List.cons.inj (List.append_cancel_left hmore.1)).2
    have hn : n = 0 := by
      cases n with
      | zero => rfl
      | succ n => exact absurd (List.cons.inj htail).1 (by decide)
    rw [hn, List.replicate_zero, List.nil_append] at htail
    exact ⟨hbefore, hn, List.append_cancel_left htail ▸ hmore.2⟩
  · rintro ⟨rfl, rfl, rfl | ⟨tail, rfl⟩⟩
    · exact Or.inl rfl
    · exact Or.inr ⟨tail, rfl⟩

/-- Another spelling is one the test does not recognise. -/
theorem respelled_iff (h : ServicePath u before n after) :
    (before ≠ [] ∨ 0 < n ∨ after ≠ [] ∧ ∀ x ∈ after, isWhitespace x = true) ↔
      isRuntimeSystemServiceResource u ≠ true := by
  refine Iff.trans ?_ (not_congr (isRuntime_iff h)).symm
  rw [not_and_or, not_and_or, Nat.pos_iff_ne_zero, not_or]
  refine or_congr_right (or_congr_right (and_congr_right fun hafter => ?_))
  constructor
  · rintro hblanks ⟨tail, rfl⟩
    exact absurd (hblanks '/' List.mem_cons_self) (by decide)
  · exact fun hslash => h.behind.resolve_left hslash

end

/-! ## 3. Confinement and protection -/

/-- **Paths stay beneath the roots, and the test recognises the files of the services** just when
the URI is not written another way. -/
theorem confined_and_protected_iff (base : List String) (u : String) :
    (∀ p, rootedLocalhostFsPath base u = some p → ∃ root ∈ FILE_BACKED_ROOTS, ∃ parts,
      p = base ++ root :: parts ∧ ∀ component ∈ root :: parts, Normal component) ∧
    ((∀ p, rootedLocalhostFsPath base u = some p → base ++ SERVICES <+: p →
      startsWith u "localhost://" = true → isRuntimeSystemServiceResource u = true) ↔
        ¬Respelled u) := by
  constructor
  · intro p hp
    obtain ⟨root, rest, -, hroot, hnormal, rfl⟩ := rootedLocalhostFsPath_eq_some.mp hp
    exact ⟨root, hroot, pieces rest, rfl,
      List.forall_mem_cons.mpr ⟨normal_of_mem_fileBackedRoots hroot, hnormal⟩⟩
  · constructor
    · rintro hprotected ⟨before, n, after, hpath, hspelling⟩
      obtain ⟨hstart, p, hp, hbeneath⟩ := (reaches_services_iff base u).mpr ⟨_, _, _, hpath⟩
      exact (respelled_iff hpath).mp hspelling (hprotected p hp hbeneath hstart)
    · intro hspelling p hp hbeneath hstart
      obtain ⟨before, n, after, hpath⟩ := (reaches_services_iff base u).mp ⟨hstart, p, hp, hbeneath⟩
      by_contra htest
      exact hspelling ⟨before, n, after, hpath, (respelled_iff hpath).mpr htest⟩

/-- A second slash is enough. -/
theorem services_reached_unrecognised :
    ¬∀ (base : List String) (u : String) (p : List String),
      rootedLocalhostFsPath base u = some p → base ++ SERVICES <+: p →
        startsWith u "localhost://" = true → isRuntimeSystemServiceResource u = true := by
  intro h
  have hp : rootedLocalhostFsPath ["srv"] "localhost://ElastOS//SystemServices/Publisher" =
      some ["srv", "ElastOS", "SystemServices", "Publisher"] := by decide
  exact absurd (h _ _ _ hp ⟨["Publisher"], rfl⟩ (by decide)) (by decide)

end ElastosRuntime.Localhost

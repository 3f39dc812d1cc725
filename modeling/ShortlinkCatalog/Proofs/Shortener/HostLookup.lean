import ShortlinkCatalog.Proofs.Text.AsciiCase
import ShortlinkCatalog.Shortener.Registry

/-!
# Shorteners found by their host

A lookup puts the host it is given into normal form, and compares it with the hosts of the
registry as they are written.  So it is a lookup by normal forms as long as these are normal.
A host in another form takes part only by mistake: it is missed under its own spelling, and
found under one that it is the normal form of.  The two lookups are the same exactly if each
such host is hidden, since nothing has it as its normal form and an earlier one stands for it.
-/

namespace ShortlinkCatalog.Registry

variable {registry : Registry} {shortener : Shortener}

/-- The first shortener whose host has the same normal form. -/
def findBySameHost? (registry : Registry) (host : Text) : Option Shortener :=
  registry.shorteners.find? (normalHost ·.host == normalHost host)

/-- A shortener that is preceded by others none of which is meant. -/
def IsFirst (registry : Registry) (isMeant : Shortener → Prop) (shortener : Shortener) : Prop :=
  ∃ before after, registry.shorteners = before ++ shortener :: after ∧ isMeant shortener ∧
    ∀ earlier ∈ before, ¬ isMeant earlier

/-- A host that lookups by normal forms can do without: it is the normal form of none, and an
earlier shortener has its normal form. -/
structure IsHidden (before : List Shortener) (host : Text) : Prop where
  unreached : ∀ other, normalHost other ≠ host
  covered : ∃ earlier ∈ before, earlier.host = normalHost host

/-- Every host is in normal form or hidden. -/
def HasNormalHosts (registry : Registry) : Prop :=
  ∀ before shortener after, registry.shorteners = before ++ shortener :: after →
    normalHost shortener.host = shortener.host ∨ IsHidden before shortener.host

/-! ## What is found -/

theorem find?_eq_some_iff_isFirst {isMeant : Shortener → Prop} {test : Shortener → Bool}
    (htest : ∀ shortener, test shortener = true ↔ isMeant shortener) :
    registry.shorteners.find? test = some shortener ↔ registry.IsFirst isMeant shortener := by
  rw [List.find?_eq_some_iff_append, IsFirst]
  simp only [Bool.not_eq_true', ← Bool.not_eq_true, htest]
  constructor
  · rintro ⟨hmeant, before, after, hsplit, hbefore⟩
    exact ⟨before, after, hsplit, hmeant, hbefore⟩
  · rintro ⟨before, after, hsplit, hmeant, hbefore⟩
    exact ⟨hmeant, before, after, hsplit, hbefore⟩

theorem findByHost?_eq_some_iff (host : Text) :
    registry.findByHost? host = some shortener ↔
      registry.IsFirst (·.host = normalHost host) shortener :=
  find?_eq_some_iff_isFirst fun _ => beq_iff_eq

theorem findBySameHost?_eq_some_iff (host : Text) :
    registry.findBySameHost? host = some shortener ↔
      registry.IsFirst (normalHost ·.host = normalHost host) shortener :=
  find?_eq_some_iff_isFirst fun _ => beq_iff_eq

theorem findByHost?_eq_none_iff (host : Text) :
    registry.findByHost? host = none ↔
      ∀ shortener ∈ registry.shorteners, shortener.host ≠ normalHost host := by
  rw [findByHost?, List.find?_eq_none]
  simp only [beq_iff_eq, ne_eq]

theorem findByHost?_of_sameLetters {host other : Text} (hletters : Text.SameLetters host other) :
    registry.findByHost? host = registry.findByHost? other := by
  rw [findByHost?, findByHost?, normalHost, normalHost, Text.toLower_of_sameLetters hletters]

/-! ## Hosts that are not normal -/

theorem normalHost_of_found (hnormal : registry.HasNormalHosts)
    (hmem : shortener ∈ registry.shorteners) {host : Text}
    (hhost : shortener.host = normalHost host) : normalHost shortener.host = normalHost host := by
  obtain ⟨before, after, hsplit⟩ := List.append_of_mem hmem
  rcases hnormal before shortener after hsplit with hsame | hhidden
  · rw [hsame, hhost]
  · exact absurd hhost.symm (hhidden.unreached host)

/-- A host with the normal form that is looked for is found, or another one before it is. -/
theorem found_of_normalHost (hnormal : registry.HasNormalHosts) {before after : List Shortener}
    (hsplit : registry.shorteners = before ++ shortener :: after) {host : Text}
    (hhost : normalHost shortener.host = normalHost host) :
    shortener.host = normalHost host ∨ ∃ earlier ∈ before, earlier.host = normalHost host := by
  rw [← hhost]
  exact (hnormal before shortener after hsplit).imp Eq.symm IsHidden.covered

/-- The two lookups agree where each host is normal or hidden. -/
theorem findByHost?_eq_findBySameHost? (hnormal : registry.HasNormalHosts) (host : Text) :
    registry.findByHost? host = registry.findBySameHost? host := by
  apply Option.ext
  intro shortener
  rw [findByHost?_eq_some_iff, findBySameHost?_eq_some_iff]
  constructor
  · rintro ⟨before, after, hsplit, hhost, hbefore⟩
    refine ⟨before, after, hsplit, normalHost_of_found hnormal (by simp [hsplit]) hhost, ?_⟩
    intro earlier hmem hsame
    obtain ⟨first, between, rfl⟩ := List.append_of_mem hmem
    rw [List.append_assoc, List.cons_append] at hsplit
    rcases found_of_normalHost hnormal hsplit hsame with hfound | ⟨found, hfirst, hfound⟩
    · exact hbefore earlier hmem hfound
    · exact hbefore found (by simp [hfirst]) hfound
  · rintro ⟨before, after, hsplit, hsame, hbefore⟩
    have hmissed : ∀ earlier ∈ before, earlier.host ≠ normalHost host := by
      intro earlier hmem hfound
      exact hbefore earlier hmem (normalHost_of_found hnormal (by simp [hsplit, hmem]) hfound)
    refine ⟨before, after, hsplit, ?_, hmissed⟩
    rcases found_of_normalHost hnormal hsplit hsame with hfound | ⟨earlier, hmem, hfound⟩
    · exact hfound
    · exact absurd hfound (hmissed earlier hmem)

/-- Where the two lookups agree, a host that is not normal is hidden. -/
theorem hasNormalHosts_of_agree
    (hagree : ∀ host, registry.findByHost? host = registry.findBySameHost? host) :
    registry.HasNormalHosts := by
  intro before shortener after hsplit
  by_cases hsame : normalHost shortener.host = shortener.host
  · exact .inl hsame
  refine .inr ⟨?_, ?_⟩
  · intro other hother
    -- what is found by the spelling of the host has another normal form
    obtain ⟨found, hfound⟩ : ∃ found, registry.findByHost? other = some found := by
      rw [← Option.ne_none_iff_exists', ne_eq, findByHost?_eq_none_iff]
      intro hmissed
      exact hmissed shortener (by simp [hsplit]) hother.symm
    obtain ⟨_, _, -, hhost, -⟩ := (findByHost?_eq_some_iff other).mp hfound
    rw [hagree] at hfound
    obtain ⟨_, _, -, hnormal, -⟩ := (findBySameHost?_eq_some_iff other).mp hfound
    rw [hhost, hother] at hnormal
    exact hsame hnormal
  · -- the lookup of the host itself stops at it or earlier, and not at it
    have hfind : registry.findBySameHost? shortener.host =
        (before.find? (normalHost ·.host == normalHost shortener.host)).or (some shortener) := by
      rw [findBySameHost?, hsplit, List.find?_append, List.find?_cons_of_pos (by simp)]
    cases hearlier : before.find? (normalHost ·.host == normalHost shortener.host) with
    | none =>
        rw [hearlier, Option.none_or, ← hagree] at hfind
        obtain ⟨_, _, -, hhost, -⟩ := (findByHost?_eq_some_iff shortener.host).mp hfind
        exact absurd hhost.symm hsame
    | some earlier =>
        rw [hearlier, Option.some_or, ← hagree] at hfind
        obtain ⟨_, _, -, hhost, -⟩ := (findByHost?_eq_some_iff shortener.host).mp hfind
        exact ⟨earlier, List.mem_of_find?_eq_some hearlier, hhost⟩

/-- A lookup finds the first shortener whose host is written as the normal form of the host
that is looked for, and nothing if there is none; the case of ASCII letters in the host that
is looked for makes no difference.  It finds the first shortener whose host has the same
normal form, whatever is looked for, exactly if every host of the registry is in normal form
or hidden. -/
theorem findByHost?_agrees_iff_hasNormalHosts (registry : Registry) :
    (∀ host shortener, registry.findByHost? host = some shortener ↔
      registry.IsFirst (·.host = normalHost host) shortener) ∧
    (∀ host, registry.findByHost? host = none ↔
      ∀ shortener ∈ registry.shorteners, shortener.host ≠ normalHost host) ∧
    (∀ host other, Text.SameLetters host other →
      registry.findByHost? host = registry.findByHost? other) ∧
    ((∀ host, registry.findByHost? host = registry.findBySameHost? host) ↔
      registry.HasNormalHosts) :=
  ⟨fun host _ => findByHost?_eq_some_iff host, findByHost?_eq_none_iff,
    fun _ _ => findByHost?_of_sameLetters,
    hasNormalHosts_of_agree, findByHost?_eq_findBySameHost?⟩

theorem hasNormalHosts_builtIn : builtIn.HasNormalHosts := by
  have hall : ∀ shortener ∈ builtIn.shorteners, normalHost shortener.host = shortener.host := by
    simp only [builtIn, BuiltIn.shorteners, List.forall_mem_cons]
    exact ⟨rfl, rfl, rfl, rfl, rfl, by simp⟩
  intro before shortener after hsplit
  exact .inl (hall shortener (by simp [hsplit]))

/-- The hosts of the built-in shorteners are normal, so one of them is found in any form. -/
theorem findByHost?_agrees_iff_hasNormalHosts_debli :
    Text.SameLetters "WWW.Deb.Li" "www.deb.li" ∧
      builtIn.findByHost? "WWW.Deb.Li" = builtIn.findByHost? "www.deb.li" ∧
      builtIn.findByHost? "WWW.Deb.Li" = builtIn.findBySameHost? "WWW.Deb.Li" ∧
      builtIn.findBySameHost? "WWW.Deb.Li" = some BuiltIn.debli := by
  have hletters : Text.SameLetters "WWW.Deb.Li" "www.deb.li" := by decide
  obtain ⟨-, -, hcase, hagree⟩ := findByHost?_agrees_iff_hasNormalHosts builtIn
  exact ⟨hletters, hcase _ _ hletters, hagree.mpr hasNormalHosts_builtIn _, rfl⟩

/-- A shortener with nothing but a host. -/
def hosted (host : Text) : Shortener := ⟨"s", host, "http://x/", "any", none, none, none⟩

def hostedRegistry (host : Text) : Registry := ⟨[hosted host], by simp⟩

/-- A host with a capital is missed under its own spelling, and so is one that starts with
`www.`; the latter is found under a host that has another normal form. -/
theorem own_host_missed :
    (hostedRegistry "Bit.ly").findBySameHost? "Bit.ly" = some (hosted "Bit.ly") ∧
      (hostedRegistry "Bit.ly").findByHost? "Bit.ly" = none ∧
      (hostedRegistry "www.x").findByHost? "www.x" = none ∧
      (hostedRegistry "www.x").findBySameHost? "www.www.x" = none ∧
      (hostedRegistry "www.x").findByHost? "www.www.x" = some (hosted "www.x") :=
  ⟨rfl, rfl, rfl, rfl, rfl⟩

end ShortlinkCatalog.Registry

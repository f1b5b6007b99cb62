import Courier.Config.Basic

/-!
# Credentials are masked

A URL shows up in logs with a mask between its scheme and its last `@`.  There are three forms of a
URL (`urlForm`): one without `://`, one without an `@` behind its first `://`, and one with both,
`scheme://credentials@host`, in which the host has no `@`.  The first two are shown as they are
(`maskCredentials_of_not_isInfix`, `maskCredentials_of_not_mem`), the third one with a mask in place
of the credentials (`maskCredentials_eq`), whatever these are.

`safeUrl_eq` puts this together, with what follows from it: masked URLs stay as they are.
-/

namespace Courier

/-! ### The last occurrence of a character -/

section CutAtLast

variable {sep : Char} {before after cs : List Char}

theorem cutAtLast_eq_none (h : sep ∉ cs) : cutAtLast sep cs = none := by
  induction cs with
  | nil => rfl
  | cons c cs ih =>
    have hc : c ≠ sep := fun heq => h (heq ▸ List.mem_cons_self ..)
    have hcs : sep ∉ cs := fun hmem => h (List.mem_cons_of_mem _ hmem)
    simp only [cutAtLast, ih hcs, if_neg hc]

theorem cutAtLast_append_cons (h : sep ∉ after) :
    cutAtLast sep (before ++ sep :: after) = some (before, after) := by
  induction before with
  | nil => simp only [List.nil_append, cutAtLast, cutAtLast_eq_none h, if_true]
  | cons c before ih => simp only [List.cons_append, cutAtLast, ih]

/-- A text with a character has a last one. -/
theorem exists_eq_append_of_mem (h : sep ∈ cs) :
    ∃ before after, cs = before ++ sep :: after ∧ sep ∉ after := by
  induction cs with
  | nil => cases h
  | cons c cs ih =>
    by_cases hcs : sep ∈ cs
    · obtain ⟨before, after, rfl, hafter⟩ := ih hcs
      exact ⟨c :: before, after, rfl, hafter⟩
    · obtain rfl | hmem := List.mem_cons.1 h
      · exact ⟨[], cs, rfl, hcs⟩
      · exact absurd hmem hcs

end CutAtLast

/-! ### The first occurrence of a word -/

section CutAtWord

variable {word before after cs : List Char}

theorem cutAtWord_eq_none (h : ¬ word <:+: cs) : cutAtWord word cs = none := by
  induction cs with
  | nil =>
    have hword : word ≠ [] := by
      rintro rfl
      exact h (List.nil_infix)
    exact if_neg hword
  | cons c cs ih =>
    have hfirst : ¬ word.isPrefixOf (c :: cs) = true := fun hlead =>
      h (List.isPrefixOf_iff_prefix.1 hlead).isInfix
    have hrest : ¬ word <:+: cs := fun hinside => h (hinside.trans (List.suffix_cons c cs).isInfix)
    rw [cutAtWord, if_neg hfirst, ih hrest]
    rfl

/-- A word is found where it stands, unless it begins further in front, and then it has ended when
only its last character is missing here. -/
theorem cutAtWord_append (h : ¬ word <:+: before ++ word.dropLast) :
    cutAtWord word (before ++ word ++ after) = some (before, after) := by
  have hword : word ≠ [] := by
    rintro rfl
    exact h List.nil_infix
  induction before with
  | nil =>
    obtain ⟨c, rest, rfl⟩ := List.exists_cons_of_ne_nil hword
    have hfirst : (c :: rest).isPrefixOf (c :: (rest ++ after)) = true :=
      List.isPrefixOf_iff_prefix.2 (List.prefix_append (c :: rest) after)
    rw [List.nil_append, List.cons_append, cutAtWord, if_pos hfirst, ← List.cons_append,
      List.drop_left]
  | cons c before ih =>
    have hfirst : ¬ word.isPrefixOf (c :: (before ++ word ++ after)) = true := by
      intro hbegins
      -- Both begin the text, and the word is not the longer one.
      have hlead : c :: before ++ word.dropLast <+: c :: (before ++ word ++ after) := by
        have hdrop : word.dropLast <+: word ++ after :=
          (List.dropLast_prefix word).trans (List.prefix_append word after)
        rw [List.append_assoc before]
        exact (List.prefix_append_right_inj (c :: before)).2 hdrop
      have hlength : word.length ≤ (c :: before ++ word.dropLast).length := by
        rw [List.length_append, List.length_dropLast, List.length_cons]
        omega
      have hinside := List.prefix_of_prefix_length_le (List.isPrefixOf_iff_prefix.1 hbegins)
        hlead hlength
      exact h hinside.isInfix
    have hrest : ¬ word <:+: before ++ word.dropLast := fun hinside =>
      h (hinside.trans (List.suffix_cons c _).isInfix)
    rw [List.cons_append, List.cons_append, cutAtWord, if_neg hfirst, ih hrest]
    rfl

/-- A text with a word has a first one. -/
theorem exists_eq_append_of_isInfix (hword : word ≠ []) (h : word <:+: cs) :
    ∃ before after, cs = before ++ word ++ after ∧ ¬ word <:+: before := by
  have hnil : ¬ word <:+: [] := fun hinside => hword (List.infix_nil.1 hinside)
  induction cs with
  | nil => exact absurd h hnil
  | cons c cs ih =>
    by_cases hfirst : word <+: c :: cs
    · obtain ⟨after, hafter⟩ := hfirst
      exact ⟨[], after, hafter.symm, hnil⟩
    · have hrest : word <:+: cs := (List.infix_cons_iff.1 h).resolve_left hfirst
      obtain ⟨before, after, rfl, hbefore⟩ := ih hrest
      refine ⟨c :: before, after, rfl, fun hinside => ?_⟩
      obtain hbegins | hrest' := List.infix_cons_iff.1 hinside
      · rw [List.append_assoc] at hfirst
        exact hfirst (hbegins.trans (List.prefix_append (c :: before) (word ++ after)))
      · exact hbefore hrest'

end CutAtWord

/-! ### The three forms of a URL -/

namespace Config

variable {scheme credentials host rest : List Char}

/-- No `://` begins in front of another one and ends within it. -/
theorem not_isInfix_append_dropLast (h : ¬ schemeEnd <:+: scheme) :
    ¬ schemeEnd <:+: scheme ++ schemeEnd.dropLast := by
  have hconcat {cs : List Char} {c : Char} (hsuffix : schemeEnd <:+ cs ++ [c]) :
      c = '/' ∧ [':', '/'] <:+ cs := by
    obtain hnil | ⟨front, heq, hfront⟩ := List.suffix_concat_iff.1 hsuffix
    · cases hnil
    · have hsplit : [':', '/'] ++ ['/'] = front ++ [c] := heq
      obtain ⟨rfl, hc⟩ := List.append_inj' hsplit rfl
      exact ⟨(List.singleton_inj.1 hc).symm, hfront⟩
  have hdropLast : scheme ++ schemeEnd.dropLast = scheme ++ [':'] ++ ['/'] := by
    rw [List.append_assoc]
    rfl
  rw [hdropLast, List.infix_concat_iff, List.infix_concat_iff]
  rintro (hsuffix | hsuffix | hinside)
  · obtain hnil | ⟨front, heq, -⟩ := List.suffix_concat_iff.1 (hconcat hsuffix).2
    · cases hnil
    · have hsplit : [':'] ++ ['/'] = front ++ [':'] := heq
      obtain ⟨-, hc⟩ := List.append_inj' hsplit rfl
      exact absurd (List.singleton_inj.1 hc) (by decide)
  · exact absurd (hconcat hsuffix).1 (by decide)
  · exact h hinside

theorem cutAtWord_schemeEnd (h : ¬ schemeEnd <:+: scheme) :
    cutAtWord schemeEnd (scheme ++ schemeEnd ++ rest) = some (scheme, rest) :=
  cutAtWord_append (not_isInfix_append_dropLast h)

/-- Every URL has one of three forms. -/
theorem urlForm (cs : List Char) :
    ¬ schemeEnd <:+: cs ∨
    (∃ scheme rest, cs = scheme ++ schemeEnd ++ rest ∧ ¬ schemeEnd <:+: scheme ∧ '@' ∉ rest) ∨
    ∃ scheme credentials host, cs = scheme ++ schemeEnd ++ credentials ++ '@' :: host ∧
      ¬ schemeEnd <:+: scheme ∧ '@' ∉ host := by
  by_cases hend : schemeEnd <:+: cs
  · obtain ⟨scheme, rest, rfl, hscheme⟩ := exists_eq_append_of_isInfix (by decide) hend
    by_cases hat : '@' ∈ rest
    · obtain ⟨credentials, host, rfl, hhost⟩ := exists_eq_append_of_mem hat
      exact .inr (.inr ⟨scheme, credentials, host, (List.append_assoc ..).symm, hscheme, hhost⟩)
    · exact .inr (.inl ⟨scheme, rest, rfl, hscheme, hat⟩)
  · exact .inl hend

/-! ### How each of them is shown -/

variable {url : String}

theorem maskCredentials_of_eq {masked : String} (h : maskCredentials? url = some masked) :
    maskCredentials url = masked := by
  simp only [maskCredentials, h, Option.get_some]

theorem maskCredentials_of_not_isInfix (h : ¬ schemeEnd <:+: url.toList) :
    maskCredentials url = url := by
  have hstart : offsetOfWord? schemeEnd url.toList = none := by
    rw [offsetOfWord?, cutAtWord_eq_none h]
    rfl
  refine maskCredentials_of_eq ?_
  simp only [maskCredentials?, hstart]

theorem offsetOfWord?_schemeEnd (h : ¬ schemeEnd <:+: scheme) :
    offsetOfWord? schemeEnd (scheme ++ schemeEnd ++ rest) = some (byteLength scheme) := by
  rw [offsetOfWord?, cutAtWord_schemeEnd h]
  rfl

/-- An `@` in front of the first `://` is none behind it. -/
theorem maskCredentials_of_not_mem (hurl : url.toList = scheme ++ schemeEnd ++ rest)
    (hscheme : ¬ schemeEnd <:+: scheme) (hrest : '@' ∉ rest) : maskCredentials url = url := by
  have hstart : offsetOfWord? schemeEnd url.toList = some (byteLength scheme) := by
    rw [hurl, offsetOfWord?_schemeEnd hscheme]
  have htail : '@' ∉ schemeEnd ++ rest := fun hmem =>
    (List.mem_append.1 hmem).elim (by decide) hrest
  refine maskCredentials_of_eq ?_
  by_cases hat : '@' ∈ scheme
  · obtain ⟨before, after, rfl, hafter⟩ := exists_eq_append_of_mem hat
    have hbehind : '@' ∉ after ++ (schemeEnd ++ rest) := fun hmem =>
      (List.mem_append.1 hmem).elim hafter htail
    have hstop : lastOffsetOf? '@' url.toList = some (byteLength before) := by
      rw [hurl, lastOffsetOf?, List.append_assoc, List.append_assoc, List.cons_append,
        cutAtLast_append_cons hbehind]
      rfl
    have hle : ¬ byteLength (before ++ '@' :: after) < byteLength before := by
      rw [byteLength_append]
      omega
    simp only [maskCredentials?, hstart, hstop, if_neg hle]
  · have hnone : '@' ∉ scheme ++ (schemeEnd ++ rest) := fun hmem =>
      (List.mem_append.1 hmem).elim hat htail
    have hstop : lastOffsetOf? '@' url.toList = none := by
      rw [hurl, lastOffsetOf?, List.append_assoc, cutAtLast_eq_none hnone]
      rfl
    simp only [maskCredentials?, hstart, hstop]

/-- The credentials are masked, whatever they are. -/
theorem maskCredentials_eq (hurl : url.toList = scheme ++ schemeEnd ++ credentials ++ '@' :: host)
    (hscheme : ¬ schemeEnd <:+: scheme) (hhost : '@' ∉ host) :
    maskCredentials url =
      String.ofList (scheme ++ schemeEnd ++ credentialsMask ++ '@' :: host) := by
  have hstart : offsetOfWord? schemeEnd url.toList = some (byteLength scheme) := by
    rw [hurl, List.append_assoc, offsetOfWord?_schemeEnd hscheme]
  have hstop : lastOffsetOf? '@' url.toList =
      some (byteLength (scheme ++ schemeEnd ++ credentials)) := by
    rw [hurl, lastOffsetOf?, cutAtLast_append_cons hhost]
    rfl
  have hlt : byteLength scheme < byteLength (scheme ++ schemeEnd ++ credentials) := by
    have hend : byteLength schemeEnd = 3 := rfl
    rw [byteLength_append, byteLength_append, hend]
    omega
  have hfront : cutAtOffset? (byteLength scheme + byteLength schemeEnd) url.toList =
      some (scheme ++ schemeEnd, credentials ++ '@' :: host) := by
    rw [hurl, List.append_assoc, ← byteLength_append]
    exact cutAtOffset?_append _ _
  have hback : cutAtOffset? (byteLength (scheme ++ schemeEnd ++ credentials)) url.toList =
      some (scheme ++ schemeEnd ++ credentials, '@' :: host) := by
    rw [hurl]
    exact cutAtOffset?_append _ _
  refine maskCredentials_of_eq ?_
  simp only [maskCredentials?, maskBetween?, hstart, hstop, if_pos hlt, hfront, hback]

/-- A masked URL has nothing left to mask. -/
theorem maskCredentials_maskCredentials (url : String) :
    maskCredentials (maskCredentials url) = maskCredentials url := by
  obtain hend | ⟨scheme, rest, hurl, hscheme, hrest⟩ |
      ⟨scheme, credentials, host, hurl, hscheme, hhost⟩ := urlForm url.toList
  · rw [maskCredentials_of_not_isInfix hend, maskCredentials_of_not_isInfix hend]
  · have hsame := maskCredentials_of_not_mem hurl hscheme hrest
    rw [hsame, hsame]
  · rw [maskCredentials_eq hurl hscheme hhost]
    exact maskCredentials_eq String.toList_ofList hscheme hhost

/-! ### The broker's URL in logs -/

theorem toList_withCredentials (scheme credentials host : String) :
    (scheme ++ "://" ++ credentials ++ "@" ++ host).toList =
      scheme.toList ++ schemeEnd ++ credentials.toList ++ '@' :: host.toList := by
  have hend : "://".toList = schemeEnd := rfl
  have hat : "@".toList = ['@'] := rfl
  simp only [String.toList_append, hend, hat, List.append_assoc, List.singleton_append]

theorem ofList_masked (scheme host : String) :
    String.ofList (scheme.toList ++ schemeEnd ++ credentialsMask ++ '@' :: host.toList) =
      scheme ++ "://***@" ++ host := by
  have hmask : "://***@".toList = schemeEnd ++ credentialsMask ++ ['@'] := rfl
  apply String.toList_injective
  simp only [String.toList_ofList, String.toList_append, hmask, List.append_assoc,
    List.singleton_append]

/-- **Credentials are masked, and nothing else is.**  A URL of the form `scheme://credentials@host`
shows as `scheme://***@host`, whatever its credentials are; a URL of any other form shows as it is.
The cuts that this takes can all be made, and a URL that is masked already shows as it is. -/
theorem safeUrl_eq :
    (∀ (c : Config) (scheme credentials host : String), ¬ schemeEnd <:+: scheme.toList →
      '@' ∉ host.toList → c.brokerUrl = scheme ++ "://" ++ credentials ++ "@" ++ host →
        c.safeUrl = scheme ++ "://***@" ++ host) ∧
    (∀ (c c' : Config) (scheme credentials credentials' host : String),
      ¬ schemeEnd <:+: scheme.toList → '@' ∉ host.toList →
        c.brokerUrl = scheme ++ "://" ++ credentials ++ "@" ++ host →
          c'.brokerUrl = scheme ++ "://" ++ credentials' ++ "@" ++ host → c'.safeUrl = c.safeUrl) ∧
    (∀ c : Config, ¬ schemeEnd <:+: c.brokerUrl.toList → c.safeUrl = c.brokerUrl) ∧
    (∀ (c : Config) (scheme rest : String), ¬ schemeEnd <:+: scheme.toList → '@' ∉ rest.toList →
      c.brokerUrl = scheme ++ "://" ++ rest → c.safeUrl = c.brokerUrl) ∧
    (∀ c : Config, maskCredentials? c.brokerUrl = some c.safeUrl) ∧
    ∀ c : Config, { c with brokerUrl := c.safeUrl }.safeUrl = c.safeUrl := by
  have hmasked (c : Config) (scheme credentials host : String)
      (hscheme : ¬ schemeEnd <:+: scheme.toList) (hhost : '@' ∉ host.toList)
      (hurl : c.brokerUrl = scheme ++ "://" ++ credentials ++ "@" ++ host) :
      c.safeUrl = scheme ++ "://***@" ++ host := by
    have hlist := toList_withCredentials scheme credentials host
    rw [← hurl] at hlist
    rw [safeUrl, maskCredentials_eq hlist hscheme hhost, ofList_masked]
  refine ⟨hmasked, ?_, fun c => maskCredentials_of_not_isInfix, ?_, ?_, ?_⟩
  · intro c c' scheme credentials credentials' host hscheme hhost hurl hurl'
    rw [hmasked c scheme credentials host hscheme hhost hurl,
      hmasked c' scheme credentials' host hscheme hhost hurl']
  · intro c scheme rest hscheme hrest hurl
    have hlist : c.brokerUrl.toList = scheme.toList ++ schemeEnd ++ rest.toList := by
      rw [hurl, String.toList_append, String.toList_append]
      rfl
    exact maskCredentials_of_not_mem hlist hscheme hrest
  · intro c
    exact (Option.some_get _).symm
  · intro c
    exact maskCredentials_maskCredentials c.brokerUrl

/-- A scheme that ends with a colon, with a password that has an `@` and a `://` of its own; and two
URLs whose only `@` is in front of a `://`, or of none. -/
theorem safeUrl_eq_password :
    (¬ schemeEnd <:+: "amqp:".toList ∧ '@' ∉ "höst/".toList ∧
      ({ brokerUrl := "amqp:://user:p@ss://wörd@höst/" } : Config).safeUrl =
        "amqp:://***@höst/") ∧
    (¬ schemeEnd <:+: "user@host".toList ∧
      ({ brokerUrl := "user@host" } : Config).safeUrl = "user@host") ∧
    (¬ schemeEnd <:+: "user@".toList ∧ '@' ∉ "host".toList ∧
      ({ brokerUrl := "user@://host" } : Config).safeUrl = "user@://host") := by
  have hscheme : ¬ schemeEnd <:+: "amqp:".toList := by decide
  have hhost : '@' ∉ "höst/".toList := by decide
  have hnone : ¬ schemeEnd <:+: "user@host".toList := fun hinside =>
    absurd (hinside.subset (by decide : ':' ∈ schemeEnd)) (by decide)
  have hfront : ¬ schemeEnd <:+: "user@".toList := by decide
  have hbehind : '@' ∉ "host".toList := by decide
  refine ⟨⟨hscheme, hhost, ?_⟩, ⟨hnone, ?_⟩, ⟨hfront, hbehind, ?_⟩⟩
  · exact safeUrl_eq.1 { brokerUrl := "amqp:://user:p@ss://wörd@höst/" } "amqp:"
      "user:p@ss://wörd" "höst/" hscheme hhost rfl
  · exact safeUrl_eq.2.2.1 { brokerUrl := "user@host" } hnone
  · exact safeUrl_eq.2.2.2.1 { brokerUrl := "user@://host" } "user@" "host" hfront hbehind rfl

end Config

end Courier

import ApiScaffold.Proofs.Path.Tokens
import ApiScaffold.Proofs.Resolution
import ApiScaffold.Proofs.TestCase

/-!
# The origin in front of a path

One dialect requests a path as it is, the other puts scheme and host in front of it. Everything that is
done to a path (decoding braces, taking tokens, joining code) is then done to the longer text. Where scheme
and host hold neither an opening brace nor a percent sign, this comes to the same as resolving the path on
its own and putting the origin in front of what came out (`ResolvedPath.prepend`).
-/

namespace ApiScaffold

/-! ### Decoding -/

namespace Braces

variable {digit brace : Char} {before cs : List Char}

theorem unescape_cons_of_ne {c : Char} (h : c ≠ '%') :
    unescape digit brace (c :: cs) = c :: unescape digit brace cs := by
  rw [unescape]
  rintro _ _ rfl
  exact absurd rfl h

/-- An escape starts with a percent sign, so it cannot start in a text without one. -/
theorem unescape_append (h : '%' ∉ before) :
    unescape digit brace (before ++ cs) = before ++ unescape digit brace cs := by
  induction before with
  | nil => rfl
  | cons c rest ih =>
    obtain ⟨hc, hrest⟩ := not_or.mp (mt List.mem_cons.mpr h)
    rw [List.cons_append, unescape_cons_of_ne (Ne.symm hc), ih hrest, List.cons_append]

/-- **Decoding leaves a text without percent signs** in front alone. -/
theorem decode_append (h : '%' ∉ before) : decode (before ++ cs) = before ++ decode cs := by
  simp only [decode, unescape_append h]

end Braces

/-! ### Tokens -/

namespace PathToken

variable {before cs : List Char}

/-- **Text in front of tokens**: it is joined to a text that they start with. -/
def prepend (before : List Char) : List PathToken → List PathToken
  | .text cs :: rest => .text (before ++ cs) :: rest
  | tokens => .text before :: tokens

theorem prepend_textIfAny (hne : before ≠ []) :
    prepend before (textIfAny cs) = textIfAny (before ++ cs) := by
  cases cs with
  | nil => simp [textIfAny, prepend, hne]
  | cons c rest => simp [textIfAny, prepend]

theorem prepend_textIfAny_append (hne : before ≠ []) (name : List Char) (rest : List PathToken) :
    prepend before (textIfAny cs ++ .placeholder name :: rest) =
      textIfAny (before ++ cs) ++ .placeholder name :: rest := by
  cases cs with
  | nil => simp [textIfAny, prepend, hne]
  | cons c more => simp [textIfAny, prepend]

/-- **Tokens after a text without an opening brace**: the text is put in front of them. -/
theorem scan_append (hne : before ≠ []) (h : '{' ∉ before) :
    scan (before ++ cs) = prepend before (scan cs) := by
  have hall : ∀ c ∈ before, decide (c ≠ '{') = true := by
    intro c hc
    exact decide_eq_true fun heq => h (heq ▸ hc)
  have hdrop : (before ++ cs).dropWhile (· ≠ '{') = cs.dropWhile (· ≠ '{') :=
    List.dropWhile_append_of_pos hall
  have htake : (before ++ cs).takeWhile (· ≠ '{') = before ++ cs.takeWhile (· ≠ '{') :=
    List.takeWhile_append_of_pos hall
  rcases hopen : cs.dropWhile (· ≠ '{') with _ | ⟨c, opened⟩
  · rw [scan_of_not_opened hopen, scan_of_not_opened (hdrop.trans hopen), prepend_textIfAny hne]
  rcases hclose : (opened.dropWhile (· = '{')).dropWhile (· ≠ '}') with _ | ⟨c', closed⟩
  · rw [scan_of_not_closed hopen hclose, scan_of_not_closed (hdrop.trans hopen) hclose,
      prepend_textIfAny hne]
  · rw [scan_of_closed hopen hclose, scan_of_closed (hdrop.trans hopen) hclose, htake,
      prepend_textIfAny_append hne]

end PathToken

/-! ### Segments and code -/

/-- Joined texts start with the first of them, and what follows does not depend on it. -/
theorem Text.exists_join_cons (separator : String) (rest : List String) :
    ∃ tail, ∀ s, join separator (s :: rest) = s ++ tail := by
  cases rest with
  | nil => exact ⟨"", fun s => by rw [join, String.append_empty]⟩
  | cons t more =>
    exact ⟨separator ++ join separator (t :: more), fun s => by rw [join, String.append_assoc]⟩

namespace ResolvedPath

/-- **Text in front of a resolved path**: it is joined to a text that the path starts with, and is a
segment of its own in front of a placeholder or of nothing. -/
def prepend (before : String) (path : ResolvedPath) : ResolvedPath where
  segments :=
    match path.segments with
    | .text t :: rest => .text (before ++ t) :: rest
    | segments => .text before :: segments

variable {before : String}

/-- Text in front changes neither placeholders nor what they resolve to. -/
theorem named_prepend (path : ResolvedPath) :
    (path.prepend before).segments.filterMap (·.named?) = path.segments.filterMap (·.named?) := by
  obtain ⟨_ | ⟨_ | _, _⟩⟩ := path <;> rfl

theorem missing_prepend (path : ResolvedPath) : (path.prepend before).missing = path.missing := by
  obtain ⟨_ | ⟨_ | _, _⟩⟩ := path <;> rfl

/-- The parts of a path with text in front are those of the path without it, from text on. -/
theorem partsFrom_prepend (path : ResolvedPath) :
    partsFrom "" (path.prepend before).segments = partsFrom before path.segments := by
  obtain ⟨_ | ⟨_ | _, _⟩⟩ := path <;> simp [prepend, partsFrom, PathSegment.literalText?]

/-- More text in front of what has been gathered goes into the first literal. Without one, where a
dependency comes first or nothing does, it is a literal of its own. -/
theorem partsFrom_append (hne : before ≠ "") (text : String) (segments : List PathSegment) :
    (∃ t rest, partsFrom text segments = Literal.quote t :: rest ∧
      partsFrom (before ++ text) segments = Literal.quote (before ++ t) :: rest) ∨
    partsFrom (before ++ text) segments = Literal.quote before :: partsFrom text segments ∧
      (partsFrom text segments = [] ∨
        ∃ step field rest, partsFrom text segments =
          (Expression.dependency step field).code :: rest) := by
  have hany {text : String} : quotedIfAny (before ++ text) = [Literal.quote (before ++ text)] := by
    rw [quotedIfAny, if_neg]
    simp [String.append_eq_empty_iff, hne]
  induction segments generalizing text with
  | nil =>
    rw [partsFrom, partsFrom, hany]
    by_cases htext : text = ""
    · subst htext
      exact .inr ⟨by rw [String.append_empty]; rfl, .inl rfl⟩
    · exact .inl ⟨text, [], by simp [quotedIfAny, htext], rfl⟩
  | cons segment rest ih =>
    rw [partsFrom, partsFrom]
    cases hliteral : segment.literalText? with
    | some t =>
      simp only [String.append_assoc]
      exact ih (text ++ t)
    | none =>
      simp only [hany]
      -- the segment is a dependency: a literal stands before it only if text was gathered
      by_cases htext : text = ""
      · subst htext
        have hdependency : ∃ step field, segment.code = (Expression.dependency step field).code := by
          cases segment with
          | text t => cases hliteral
          | placeholder name e =>
            cases e with
            | dependency step field => exact ⟨step, field, rfl⟩
            | missing => cases hliteral
            | literal v => cases v <;> cases hliteral
        obtain ⟨step, field, hcode⟩ := hdependency
        refine .inr ⟨by rw [String.append_empty]; rfl, .inr ⟨step, field, partsFrom "" rest, ?_⟩⟩
        rw [hcode]
        rfl
      · exact .inl ⟨text, segment.code :: partsFrom "" rest, by simp [quotedIfAny, htext], rfl⟩

/-- **Code of a path with text in front**: the text goes into the literal that the code starts with;
where it starts with a dependency, the text is added in front. -/
theorem code_prepend (hne : before ≠ "") (path : ResolvedPath) :
    (∃ t tail, path.code = Literal.quote t ++ tail ∧
      (path.prepend before).code = Literal.quote (before ++ t) ++ tail) ∨
    (∃ tail, path.code = "deps." ++ tail) ∧
      (path.prepend before).code = Literal.quote before ++ " + " ++ path.code := by
  have hparts := partsFrom_append hne "" path.segments
  rw [String.append_empty] at hparts
  unfold code parts
  rw [partsFrom_prepend]
  rcases hparts with ⟨t, rest, hplain, hfull⟩ | ⟨hfull, hplain | ⟨step, field, rest, hplain⟩⟩
  · obtain ⟨tail, htail⟩ := Text.exists_join_cons " + " rest
    rw [hplain, hfull]
    exact .inl ⟨t, tail, htail _, htail _⟩
  · rw [hfull, hplain]
    exact .inl ⟨"", "", by simp [Text.join], by simp [Text.join]⟩
  · obtain ⟨tail, htail⟩ := Text.exists_join_cons " + " rest
    rw [hfull, hplain]
    refine .inr ⟨⟨step ++ "." ++ field ++ tail, ?_⟩, rfl⟩
    rw [htail, Expression.code]
    simp only [String.append_assoc]

/-- Whether a code starts with a string literal. -/
def StartsWithLiteral (code : String) : Prop := ∃ t tail, code = Literal.quote t ++ tail

/-- A code that starts with a field of an earlier response starts with no literal. -/
theorem not_startsWithLiteral_dependency (tail : String) : ¬ StartsWithLiteral ("deps." ++ tail) := by
  rintro ⟨t, rest, heq⟩
  have hhead := congrArg (fun s => s.toList.head?) heq
  simp [Literal.quote] at hhead

end ResolvedPath

/-! ### Both dialects -/

namespace TestCase

/-- **The path that a case requests** in a dialect. -/
def pathIn (m : TestModule) (api : Description) (path : String) (pool : ValuePool)
    (deps : Dependencies) : ResolvedPath :=
  Resolution.path (requestUrl api { testModule := m } path) pool deps

theorem requestPath_of_build {api : Description} {config : RunConfig}
    {security : List SecurityRequirement} {request : CaseRequest} {t : TestCase}
    (h : build api config security request = .ok t) :
    t.requestPath =
      pathIn config.testModule api request.path config.pathParams request.deps := by
  obtain ⟨_, _, _, _, rfl⟩ := assembled_of_build h
  rfl

/-- Resolving a path after a text without special characters puts the text in front of what the path
resolves to. -/
theorem path_append {before : List Char} (hne : before ≠ []) (h : '{' ∉ before) (h' : '%' ∉ before)
    (path : String) (pool : ValuePool) (deps : Dependencies) :
    Resolution.path (String.ofList before ++ path) pool deps =
      (Resolution.path path pool deps).prepend (String.ofList before) := by
  unfold Resolution.path
  rw [String.toList_append, String.toList_ofList, Braces.decode_append h',
    PathToken.scan_append hne h]
  rcases PathToken.scan (Braces.decode path.toList) with _ | ⟨_ | _, rest⟩
  · rfl
  · simp [PathToken.prepend, ResolvedPath.prepend, Resolution.segment, String.ofList_append]
  · rfl

/-- Going through the characters shows that none of them is special. -/
theorem ne_special_of_all {cs : List Char} (h : (cs.all fun c => c ≠ '{' && c ≠ '%') = true) :
    ∀ c ∈ cs, c ≠ '{' ∧ c ≠ '%' := by
  simpa using h

/-- **The dialects request the same path.** Where scheme and host hold neither an opening brace nor a
percent sign, the path with the origin is the one without it, with the origin in front: in its segments,
where the placeholders and what they resolve to stay the same, and in its code, where the origin goes
right after the opening quote of a literal that the code starts with, and stands as a literal of its own
before any other code. -/
theorem pathIn_request_eq_prepend (api : Description)
    (hscheme : ∀ c ∈ api.scheme.toList, c ≠ '{' ∧ c ≠ '%')
    (hhost : ∀ c ∈ api.host.toList, c ≠ '{' ∧ c ≠ '%') :
    (∀ config security request t, build api config security request = .ok t →
      t.requestPath =
        pathIn config.testModule api request.path config.pathParams request.deps) ∧
    ∀ path pool deps,
      let plain := pathIn .supertest api path pool deps
      let full := pathIn .request api path pool deps
      full = plain.prepend api.origin ∧
      full.segments.filterMap (·.named?) = plain.segments.filterMap (·.named?) ∧
      full.missing = plain.missing ∧
      (ResolvedPath.StartsWithLiteral plain.code → ∃ rest,
        plain.code.toList = '\'' :: rest ∧
          full.code.toList = '\'' :: (Literal.escaped api.origin.toList ++ rest)) ∧
      (¬ ResolvedPath.StartsWithLiteral plain.code →
        full.code = Literal.quote api.origin ++ " + " ++ plain.code) := by
  refine ⟨fun _ _ _ _ => requestPath_of_build, fun path pool deps => ?_⟩
  intro plain full
  have hplain : ∀ c ∈ api.origin.toList, c ≠ '{' ∧ c ≠ '%' := by
    intro c hc
    simp only [Description.origin, String.toList_append, List.mem_append] at hc
    rcases hc with (hc | hc) | hc
    · exact hscheme c hc
    · exact ne_special_of_all (by decide) c hc
    · exact hhost c hc
  have hne : api.origin ≠ "" := by
    simp [Description.origin, String.append_eq_empty_iff]
  -- the two paths differ in the text that is scanned, and the origin in front of it stays text
  have heq : full = plain.prepend api.origin := by
    have hchars : api.origin.toList ≠ [] := by simpa using hne
    have happend := path_append hchars (fun h => (hplain _ h).1 rfl) (fun h => (hplain _ h).2 rfl)
      (api.basePathPrefix ++ path) pool deps
    simp only [String.ofList_toList] at happend
    simpa [full, plain, pathIn, requestUrl, RunConfig.needsOrigin, TestModule.needsOrigin,
      String.append_assoc] using happend
  rw [heq]
  refine ⟨rfl, ResolvedPath.named_prepend _, ResolvedPath.missing_prepend _, ?_, ?_⟩
  · intro hliteral
    rcases ResolvedPath.code_prepend hne plain with ⟨t, tail, hcode, hfull⟩ | ⟨⟨tail, hcode⟩, -⟩
    · refine ⟨Literal.escaped t.toList ++ '\'' :: tail.toList, ?_, ?_⟩
      · rw [hcode]
        simp [Literal.quote]
      · rw [hfull]
        simp [Literal.quote, Literal.escaped]
    · rw [hcode] at hliteral
      exact absurd hliteral (ResolvedPath.not_startsWithLiteral_dependency tail)
  · intro hother
    rcases ResolvedPath.code_prepend hne plain with ⟨t, tail, hcode, -⟩ | ⟨-, hfull⟩
    · exact absurd ⟨t, tail, hcode⟩ hother
    · exact hfull

/-- A path that starts with a field of an earlier response, and has a value in it: the default origin
stands before both. -/
theorem pathIn_request_eq_prepend_default :
    (∀ c ∈ (Description.scheme {}).toList, c ≠ '{' ∧ c ≠ '%') ∧
    (∀ c ∈ (Description.host {}).toList, c ≠ '{' ∧ c ≠ '%') ∧
    (pathIn .request {} "{id}/%7Bpart%7d" [("part", .str "owner")] [("create", ["id"])]).segments =
      [.text "http://localhost:10010", .placeholder "id" (.dependency "create" "id"), .text "/",
        .placeholder "part" (.literal (.str "owner"))] := by
  have hscheme : ∀ c ∈ (Description.scheme {}).toList, c ≠ '{' ∧ c ≠ '%' :=
    ne_special_of_all (by decide)
  have hhost : ∀ c ∈ (Description.host {}).toList, c ≠ '{' ∧ c ≠ '%' :=
    ne_special_of_all (by decide)
  refine ⟨hscheme, hhost, ?_⟩
  obtain ⟨-, hpaths⟩ := pathIn_request_eq_prepend {} hscheme hhost
  obtain ⟨heq, -⟩ := hpaths "{id}/%7Bpart%7d" [("part", .str "owner")] [("create", ["id"])]
  rw [heq]
  cbv

end TestCase

end ApiScaffold

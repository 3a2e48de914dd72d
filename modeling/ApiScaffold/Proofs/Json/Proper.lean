import ApiScaffold.Proofs.Data.Proper

/-!
# Numbers that are read from JSON text

Every number of a text goes through `NumberText.value?`, which rounds to a number in its normal form. The scanner
makes a number of a word and of nothing else, and the builder only moves tokens into the trees of its frames. So
the data of a text is proper (`allLeaves_readData?`): one lemma for each function that a token passes says that what
is proper stays so, and a run over the text keeps what each of its steps keeps.
-/

namespace ApiScaffold

/-- **What each step keeps** is kept by a whole run that may fail. The items of the run may have a
property of their own that the steps rely on. -/
theorem Json.foldlM_keeps {α β : Type} {f : β → α → Option β} {p : α → Prop} {P : β → Prop}
    (hstep : ∀ {b x c}, P b → p x → f b x = some c → P c) {xs : List α} (hxs : ∀ x ∈ xs, p x) {b c : β}
    (hb : P b) (h : xs.foldlM f b = some c) : P c := by
  induction xs generalizing b with
  | nil =>
    obtain rfl := Option.some.inj h
    exact hb
  | cons x rest ih =>
    obtain ⟨hx, hrest⟩ := List.forall_mem_cons.mp hxs
    rw [List.foldlM_cons] at h
    obtain ⟨mid, hmid, h⟩ := Option.bind_eq_some_iff.mp h
    exact ih hrest (hstep hb hx hmid) h

namespace Json

/-- The value of a number text is a proper leaf, if there is one. -/
theorem isProper_numberLeaf_value? (n : NumberText) : (numberLeaf n.value?).IsProper := by
  cases hvalue : n.value? with
  | none => trivial
  | some v =>
    cases v with
    | int k => trivial
    | float x =>
      have hfloat : n.float? = some x := by
        unfold NumberText.value? at hvalue
        dsimp only at hvalue
        have hmap (h : n.float?.map NumberValue.float = some (.float x)) : n.float? = some x := by
          obtain ⟨y, hy, heq⟩ := Option.map_eq_some_iff.mp h
          rw [hy, NumberValue.float.inj heq]
        split at hvalue
        · split at hvalue
          · split at hvalue
            · cases hvalue
            · exact hmap hvalue
          · split at hvalue
            · cases hvalue
            · exact hmap hvalue
        · exact hmap hvalue
      exact NumberText.isCanonical_of_float? hfloat

namespace Token

variable {t : Token} {c : Char} {tokens more : List Token}

/-- **Proper tokens**: the number of one is a proper leaf. -/
def IsProper (t : Token) : Prop := ∀ n, t = .number n → (numberLeaf n).IsProper

theorem isProper_of_punctuation? (h : punctuation? c = some t) : t.IsProper := by
  rintro n rfl
  unfold punctuation? at h
  split at h <;> cases h

/-- **A word** is a name or a number that was rounded. -/
theorem isProper_of_word? {cs : List Char} (h : word? cs = some t) : t.IsProper := by
  rintro n rfl
  rw [word?] at h
  split at h
  · cases h
  split at h
  · cases h
  split at h
  · cases h
  obtain ⟨text, -, heq⟩ := Option.map_eq_some_iff.mp h
  obtain rfl := Token.number.inj heq
  exact isProper_numberLeaf_value? text

theorem forall_isProper_of_stepBetween {scan : Scan} (h : stepBetween c tokens = some (scan, more))
    (htokens : ∀ t ∈ tokens, t.IsProper) : ∀ t ∈ more, t.IsProper := by
  rw [stepBetween] at h
  split at h
  · cases h
    exact htokens
  split at h
  · cases h
    exact htokens
  split at h
  next t ht =>
    cases h
    exact List.forall_mem_cons.mpr ⟨isProper_of_punctuation? ht, htokens⟩
  next =>
    cases h
    exact htokens

/-- One character adds proper tokens only. -/
theorem forall_isProper_of_step {s s' : Scan × List Token} (hs : ∀ t ∈ s.2, t.IsProper)
    (h : step s c = some s') : ∀ t ∈ s'.2, t.IsProper := by
  obtain ⟨scan, tokens⟩ := s
  cases scan with
  | between => exact forall_isProper_of_stepBetween h hs
  | word chars =>
    rw [step] at h
    split at h
    · -- the character ends a word and is looked at once more
      obtain ⟨t, ht, h⟩ := Option.bind_eq_some_iff.mp h
      exact forall_isProper_of_stepBetween h (List.forall_mem_cons.mpr ⟨isProper_of_word? ht, hs⟩)
    · cases h
      exact hs
  | literal text =>
    rw [step] at h
    split at h
    · have hstring : (string text.value?).IsProper := by
        intro n hn
        cases hn
      cases h
      exact List.forall_mem_cons.mpr ⟨hstring, hs⟩
    split at h
    · cases h
      exact hs
    split at h
    · cases h
    · cases h
      exact hs
  | escape text =>
    rw [step] at h
    split at h
    · cases h
      exact hs
    · obtain ⟨d, -, rfl⟩ := Option.map_eq_some_iff.mp h
      exact hs
  | unicode text digits unit =>
    rw [step] at h
    obtain ⟨v, -, rfl⟩ := Option.map_eq_some_iff.mp h
    dsimp only
    split <;> exact hs

theorem forall_isProper_of_finish? {s : Scan × List Token} (hs : ∀ t ∈ s.2, t.IsProper)
    (h : finish? s = some tokens) : ∀ t ∈ tokens, t.IsProper := by
  obtain ⟨scan, read⟩ := s
  cases scan with
  | between =>
    cases h
    exact fun t ht => hs t (List.mem_reverse.mp ht)
  | word chars =>
    obtain ⟨t, ht, rfl⟩ := Option.map_eq_some_iff.mp h
    have hall := List.forall_mem_cons.mpr ⟨isProper_of_word? ht, hs⟩
    exact fun t ht => hall t (List.mem_reverse.mp ht)
  | _ => cases h

/-- **Tokens of a text** are proper. The scanner starts without tokens, and each character adds at most
two. -/
theorem forall_isProper_of_scan? {cs : List Char} (h : scan? cs = some tokens) :
    ∀ t ∈ tokens, t.IsProper := by
  obtain ⟨s, hs, hfinish⟩ := Option.bind_eq_some_iff.mp h
  refine forall_isProper_of_finish? ?_ hfinish
  exact foldlM_keeps (p := fun _ => True) (P := fun s : Scan × List Token => ∀ t ∈ s.2, t.IsProper)
    (fun hs _ => forall_isProper_of_step hs) (fun _ _ => trivial) (List.forall_mem_nil _) hs

end Token

namespace Tree

/-- **Proper trees**: all their numbers are proper leaves. -/
inductive IsProper : Tree → Prop
  | null : IsProper .null
  | bool (b : Bool) : IsProper (.bool b)
  | number {n : Option NumberValue} (h : (numberLeaf n).IsProper) : IsProper (.number n)
  | string (s : Option String) : IsProper (.string s)
  | array {items : List Tree} (h : ∀ t ∈ items, IsProper t) : IsProper (.array items)
  | object {fields : List (Option String × Tree)} (h : ∀ f ∈ fields, IsProper f.2) :
    IsProper (.object fields)

/-- The trees that an open array or object holds are proper. -/
def Frame.IsProper : Frame → Prop
  | .array items => ∀ t ∈ items, t.IsProper
  | .object fields => ∀ f ∈ fields, f.2.IsProper
  | .field fields _ => ∀ f ∈ fields, f.2.IsProper

namespace Builder

/-- **Invariant of building**: the trees of all frames are proper, and so is a finished one. -/
structure IsProper (b : Builder) : Prop where
  result : ∀ v, b.expecting = .nothing v → v.IsProper
  frames : ∀ f ∈ b.frames, f.IsProper

variable {b b' : Builder} {frames : List Frame} {t : Token}

/-- Where something is to come yet, only the frames count. -/
theorem isProper_of_frames {e : Expecting} (he : ∀ v, e ≠ .nothing v)
    (hframes : ∀ f ∈ frames, f.IsProper) : IsProper ⟨e, frames⟩ :=
  ⟨fun v heq => (he v heq).elim, hframes⟩

theorem isProper_of_place {v : Tree} (hv : v.IsProper) (hframes : ∀ f ∈ frames, f.IsProper)
    (h : place v frames = some b) : b.IsProper := by
  cases frames with
  | nil =>
    cases h
    exact ⟨fun _ heq => Expecting.nothing.inj heq ▸ hv, List.forall_mem_nil _⟩
  | cons frame rest =>
    obtain ⟨hframe, hrest⟩ := List.forall_mem_cons.mp hframes
    cases frame with
    | array items =>
      have hitems : ∀ t ∈ v :: items, t.IsProper := List.forall_mem_cons.mpr ⟨hv, hframe⟩
      cases h
      exact isProper_of_frames nofun (List.forall_mem_cons.mpr ⟨hitems, hrest⟩)
    | field fields key =>
      have hfields : ∀ f ∈ (key, v) :: fields, f.2.IsProper := List.forall_mem_cons.mpr ⟨hv, hframe⟩
      cases h
      exact isProper_of_frames nofun (List.forall_mem_cons.mpr ⟨hfields, hrest⟩)
    | object fields => cases h

theorem isProper_of_begin (ht : t.IsProper) (hframes : ∀ f ∈ frames, f.IsProper)
    (h : begin frames t = some b) : b.IsProper := by
  have hopened {e : Expecting} {f : Frame} (he : ∀ v, e ≠ .nothing v) (hf : f.IsProper) :
      IsProper ⟨e, f :: frames⟩ :=
    isProper_of_frames he (List.forall_mem_cons.mpr ⟨hf, hframes⟩)
  cases t with
  | null => exact isProper_of_place .null hframes h
  | bool b => exact isProper_of_place (.bool b) hframes h
  | number n => exact isProper_of_place (.number (ht n rfl)) hframes h
  | string s => exact isProper_of_place (.string s) hframes h
  | openArray =>
    cases h
    exact hopened nofun (List.forall_mem_nil Tree.IsProper)
  | openObject =>
    cases h
    exact hopened nofun (List.forall_mem_nil fun f : Option String × Tree => f.2.IsProper)
  | _ => cases h

theorem isProper_of_close (hframes : ∀ f ∈ frames, f.IsProper) (h : close frames t = some b) :
    b.IsProper := by
  unfold close at h
  split at h
  next items rest =>
    obtain ⟨hframe, hrest⟩ := List.forall_mem_cons.mp hframes
    exact isProper_of_place (.array fun t ht => hframe t (List.mem_reverse.mp ht)) hrest h
  next fields rest =>
    obtain ⟨hframe, hrest⟩ := List.forall_mem_cons.mp hframes
    exact isProper_of_place (.object fun f hf => hframe f (List.mem_reverse.mp hf)) hrest h
  next => cases h

theorem isProper_of_key (hframes : ∀ f ∈ frames, f.IsProper) (h : key frames t = some b) :
    b.IsProper := by
  unfold key at h
  split at h
  next fields rest s =>
    obtain ⟨hframe, hrest⟩ := List.forall_mem_cons.mp hframes
    have hfield : (Frame.field fields s).IsProper := hframe
    cases h
    exact isProper_of_frames nofun (List.forall_mem_cons.mpr ⟨hfield, hrest⟩)
  next => cases h

/-- **One token** keeps what is built proper: it is placed, opens a frame or closes one, and in no case
is a tree made that was not there. -/
theorem IsProper.step (hb : b.IsProper) (ht : t.IsProper) (h : b.step t = some b') : b'.IsProper := by
  obtain ⟨expecting, frames⟩ := b
  have hframes : ∀ f ∈ frames, f.IsProper := hb.frames
  unfold Builder.step at h
  cases expecting with
  | value => exact isProper_of_begin ht hframes h
  | valueOrClose =>
    dsimp only at h
    split at h
    · exact isProper_of_close hframes h
    · exact isProper_of_begin ht hframes h
  | keyOrClose =>
    dsimp only at h
    split at h
    · exact isProper_of_close hframes h
    · exact isProper_of_key hframes h
  | key => exact isProper_of_key hframes h
  | colon =>
    obtain ⟨-, h⟩ := Option.ite_none_right_eq_some.mp h
    cases h
    exact isProper_of_frames nofun hframes
  | commaOrClose =>
    dsimp only at h
    split at h
    · split at h <;> cases h
      · exact isProper_of_frames nofun hframes
      · exact isProper_of_frames nofun hframes
    · exact isProper_of_close hframes h
  | nothing v => cases h

end Builder

/-- **The tree of proper tokens** is proper: nothing is built at the start, and each token keeps the
invariant. -/
theorem isProper_of_ofTokens? {tokens : List Token} {t : Tree} (htokens : ∀ t ∈ tokens, t.IsProper)
    (h : ofTokens? tokens = some t) : t.IsProper := by
  obtain ⟨b, hb, hresult⟩ := Option.bind_eq_some_iff.mp h
  have hstart : Builder.IsProper ⟨.value, []⟩ :=
    Builder.isProper_of_frames nofun (List.forall_mem_nil _)
  have hproper : b.IsProper := foldlM_keeps Builder.IsProper.step htokens hstart hb
  rw [Builder.result?] at hresult
  split at hresult
  next v heq =>
    obtain rfl := Option.some.inj hresult
    exact hproper.result v heq
  next => cases hresult

/-! ### Data of trees -/

theorem toDataItems_eq_map (levels : Nat) (items : List Tree) :
    toDataItems levels items = items.map (toData levels) := by
  induction items with
  | nil => rfl
  | cons t rest ih => rw [toDataItems, ih, List.map_cons]

theorem toDataFields_eq_map (levels : Nat) (fields : List (Option String × Tree)) :
    toDataFields levels fields = fields.map fun f => (f.1, f.2.toData levels) := by
  induction fields with
  | nil => rfl
  | cons f rest ih => rw [toDataFields, ih, List.map_cons]

/-- Readable fields are fields, with their keys known. -/
theorem mem_of_readableFields? {fields : List (Option String × Data)} {readable : List (String × Data)}
    (h : readableFields? fields = some readable) {f : String × Data} (hf : f ∈ readable) :
    (some f.1, f.2) ∈ fields := by
  induction fields generalizing readable with
  | nil =>
    cases h
    cases hf
  | cons field rest ih =>
    obtain ⟨k | k, d⟩ := field
    · cases h
    · obtain ⟨more, hmore, rfl⟩ := Option.map_eq_some_iff.mp h
      rcases List.mem_cons.mp hf with rfl | hf
      · exact List.mem_cons_self
      · exact List.mem_cons_of_mem _ (ih hmore hf)

/-- **Data of a proper tree** is proper, to whatever level it is opened. Keys that cannot be read make
an object unreadable, which is proper too. -/
theorem IsProper.toData {t : Tree} (h : t.IsProper) (levels : Nat) :
    (t.toData levels).AllLeaves Leaf.IsProper := by
  have hunreadable : Data.unreadable.AllLeaves Leaf.IsProper := .leaf trivial
  induction h generalizing levels with
  | null => exact .leaf trivial
  | bool b => exact .leaf trivial
  | number hn => exact .leaf hn
  | string s => cases s <;> exact .leaf trivial
  | array _ ih =>
    cases levels with
    | zero => exact hunreadable
    | succ levels =>
      rw [Tree.toData, toDataItems_eq_map]
      exact .seq _ (List.forall_mem_map.mpr fun t ht => ih t ht levels)
  | object _ ih =>
    cases levels with
    | zero => exact hunreadable
    | succ levels =>
      rw [Tree.toData, toDataFields_eq_map]
      split
      next readable hreadable =>
        refine .map _ fun f hf => ?_
        -- a readable field is one of the fields whose key could be read
        obtain ⟨g, hg, heq⟩ := List.mem_map.mp (mem_of_readableFields? hreadable hf)
        rw [← (Prod.mk.inj heq).2]
        exact ih g hg levels
      next => exact hunreadable

end Tree

/-- **Data of a JSON text** is proper, to the depth to which it is read. What lies deeper is unreadable
and has no number. -/
theorem allLeaves_readData? {text : String} {d : Data} (h : readData? text = some d) :
    d.AllLeaves Leaf.IsProper := by
  obtain ⟨t, ht, rfl⟩ := Option.map_eq_some_iff.mp h
  obtain ⟨tokens, htokens, htree⟩ := Option.bind_eq_some_iff.mp ht
  exact (Tree.isProper_of_ofTokens? (Token.forall_isProper_of_scan? htokens) htree).toData nestingLimit

end Json

end ApiScaffold

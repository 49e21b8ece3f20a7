import CallEffects.Proofs.Registrations
import Mathlib.Data.List.Dedup
import Mathlib.Data.List.Induction

/-!
# A registry reflects its requests

A handler is registered under a text, and what is kept is a method that was read from the text,
under the text of that method. Whoever looks a handler up gives a text again. Between the two texts
lie the reader and the printer of references, and none of it shows: after any requests, of which
some were refused, a text finds the handler of the last request for this very text, and the handler
is told the method that the text is read as.

The handlers of the library are put in without being read, but they might as well have been
requested: `Registry.library_eq_afterRequests`. So one induction, over the requests, is enough.

## Main definitions

* `Registry.Request`, `Registry.afterRequests` — requests, of which some may be refused
* `Registry.lastHandler?` — the handler of the last request under a text
* `Registry.registration?` — what is kept of a request
* `Registry.acceptedTexts` — the texts under which there is a handler
* `Registry.Reflects` — a registry after some requests

## Main results

* `Registry.getElem?_afterRequest`, `Registry.getElem?_afterRequests` — what stands under a text
* `Registry.afterRequests_reflects` — everything about a registry after some requests
-/

namespace CallEffects

namespace Registry

/-! ### Requests -/

/-- A handler and the text that it is to be registered under. -/
structure Request where
  /-- The text. -/
  text : String
  /-- The handler. -/
  handler : Handler

/-- The registry after a request. One that is refused leaves it as it is. -/
def afterRequest (r : Registry) (q : Request) : Registry :=
  match r.register q.text q.handler with
  | .ok r' => r'
  | .error _ => r

/-- The registry after several requests. -/
def afterRequests (r : Registry) (qs : List Request) : Registry := qs.foldl afterRequest r

/-- The handler of the last of some requests under a text. -/
def lastHandler? (qs : List Request) (text : String) : Option Handler :=
  (qs.filter (·.text = text)).getLast?.map (·.handler)

theorem afterRequests_append (r : Registry) (qs qs' : List Request) :
    r.afterRequests (qs ++ qs') = (r.afterRequests qs).afterRequests qs' :=
  List.foldl_append

theorem lastHandler?_concat (qs : List Request) (q : Request) (text : String) :
    lastHandler? (qs ++ [q]) text =
      if q.text = text then some q.handler else lastHandler? qs text := by
  rw [lastHandler?, List.filter_append, lastHandler?]
  by_cases hq : q.text = text <;> simp [hq]

theorem isSome_lastHandler?_iff {qs : List Request} {text : String} :
    (lastHandler? qs text).isSome = true ↔ ∃ q ∈ qs, q.text = text := by
  rw [lastHandler?, Option.isSome_map, List.getLast?_isSome, Ne, List.filter_eq_nil_iff]
  simp

/-! ### What is refused -/

/-- A request is refused exactly when its text cannot be read, and for that reason. -/
theorem register_eq_error_iff {r : Registry} {text : String} {handler : Handler} {e : Error} :
    r.register text handler = .error e ↔ MethodRef.parse text = .error e := by
  rw [register]
  cases MethodRef.parse text with
  | error e' =>
    constructor
    · rintro ⟨⟩
      rfl
    · rintro ⟨⟩
      rfl
  | ok m =>
    constructor
    · rintro ⟨⟩
    · rintro ⟨⟩

theorem afterRequest_of_error {r : Registry} {q : Request} {e : Error}
    (h : r.register q.text q.handler = .error e) : r.afterRequest q = r := by
  rw [afterRequest, h]

theorem afterRequest_of_parse {r : Registry} {q : Request} {m : MethodRef}
    (h : MethodRef.parse q.text = .ok m) : r.afterRequest q = r.insert m q.handler := by
  rw [afterRequest, register_eq_ok_iff.mpr ⟨m, h, rfl⟩]

/-! ### What stands under a text -/

/-- What is kept of a handler that is requested under a text, if the text can be read. -/
def registration? (text : String) (handler : Handler) : Option Registration :=
  (MethodRef.parse text).toOption.map (⟨·, handler⟩)

theorem registration?_of_error {text : String} {e : Error} (h : MethodRef.parse text = .error e)
    (handler : Handler) : registration? text handler = none := by
  rw [registration?, h]
  rfl

theorem registration?_of_ok {text : String} {m : MethodRef} (h : MethodRef.parse text = .ok m)
    (handler : Handler) : registration? text handler = some ⟨m, handler⟩ := by
  rw [registration?, h]
  rfl

/-- **One request.** Under its own text stands its handler, if the text can be read, and under every
other text what stood there. -/
theorem getElem?_afterRequest (r : Registry) (q : Request) (text : String) :
    (r.afterRequest q).entries[text]? =
      (if q.text = text then registration? text q.handler else none).or r.entries[text]? := by
  cases hparse : MethodRef.parse q.text with
  | error e =>
    have hnone : (if q.text = text then registration? text q.handler else none) = none := by
      split
      · rename_i htext
        exact registration?_of_error (htext ▸ hparse) q.handler
      · rfl
    rw [afterRequest_of_error (register_eq_error_iff.mpr hparse), hnone, Option.none_or]
  | ok m =>
    -- The key is the text of the method that was read, which is the text that was given.
    have hkey : m.descriptor = q.text := (MethodRef.parse_eq_ok_iff.mp hparse).2
    rw [afterRequest_of_parse hparse, insert, Std.TreeMap.getElem?_insert, hkey]
    simp only [Std.LawfulEqCmp.compare_eq_iff_eq]
    by_cases htext : q.text = text
    · rw [if_pos htext, if_pos htext, registration?_of_ok (htext ▸ hparse), Option.some_or]
    · rw [if_neg htext, if_neg htext, Option.none_or]

/-- **Several requests.** Under a text that can be read stands the handler of the last request for it,
and what stood there before if there was none. -/
theorem getElem?_afterRequests (r : Registry) (qs : List Request) (text : String) :
    (r.afterRequests qs).entries[text]? =
      ((lastHandler? qs text).bind (registration? text)).or r.entries[text]? := by
  induction qs using List.reverseRecOn with
  | nil => rfl
  | append_singleton qs q ih =>
    rw [afterRequests_append, lastHandler?_concat]
    refine (getElem?_afterRequest _ q text).trans ?_
    rw [ih, ← Option.or_assoc]
    split
    · -- A text that can be read has the handler of this request, any other text none at all.
      rw [Option.bind_some]
      cases hparse : MethodRef.parse text with
      | error e =>
        have hnone : (lastHandler? qs text).bind (registration? text) = none :=
          Option.bind_eq_none_iff.mpr fun handler _ => registration?_of_error hparse handler
        rw [hnone, Option.or_none]
      | ok m => rw [registration?_of_ok hparse, Option.some_or]
    · rw [Option.none_or]

end Registry

/-- The requests that would have led to the registry of the library. -/
def Library.requests : List Registry.Request :=
  methods.map fun (method, handler) => ⟨method.descriptor, handler⟩

example : Library.requests.map (·.text) =
    ["Ljava/lang/String;->valueOf(I)Ljava/lang/String;", "Ljava/lang/String;->length()I",
     "Ljava/lang/Integer;->parseInt(Ljava/lang/String;)I",
     "Ljava/lang/Integer;->valueOf(I)Ljava/lang/Integer;", "Ljava/lang/Math;->abs(I)I"] := by
  decide +kernel

namespace Registry

theorem parse_of_mem_requests {q : Request} (h : q ∈ Library.requests) :
    ∃ m, MethodRef.parse q.text = .ok m := by
  obtain ⟨⟨m, handler⟩, hmem, rfl⟩ := List.mem_map.mp h
  exact ⟨m, MethodRef.parse_eq_ok_iff.mpr ⟨readable_of_mem_library hmem, rfl⟩⟩

/-- The handlers of the library stand as if they had been requested. -/
theorem library_eq_afterRequests : library = empty.afterRequests Library.requests := by
  rw [library, afterRequests, Library.requests, List.foldl_map]
  refine List.foldl_ext _ _ _ fun r ⟨m, handler⟩ hmem => ?_
  have hparse : MethodRef.parse m.descriptor = .ok m :=
    MethodRef.parse_eq_ok_iff.mpr ⟨readable_of_mem_library hmem, rfl⟩
  exact (afterRequest_of_parse (q := ⟨m.descriptor, handler⟩) hparse).symm

/-! ### The registry as a whole -/

/-- The texts under which there is a handler: those of the handlers that were there at the start, and
those that were requested and could be read. -/
def acceptedTexts (start qs : List Request) : List String :=
  start.map (·.text) ++ (qs.map (·.text)).filter fun text => (MethodRef.parse text).isOk

/-- What a registry with the handlers `start` is after the requests `qs`, and what comes of one more
request. -/
structure Reflects (start qs : List Request) (r : Registry) : Prop where
  /-- A request is refused exactly when its text cannot be read. -/
  refused : ∀ q : Request, ∀ e, r.register q.text q.handler = .error e ↔
    MethodRef.parse q.text = .error e
  /-- What is refused changes nothing. -/
  unchanged : ∀ q : Request, ∀ e, r.register q.text q.handler = .error e → r.afterRequest q = r
  /-- The texts that find a handler are the ones that were given, character for character. -/
  canEmulate : ∀ text, r.canEmulate text = true ↔ text ∈ acceptedTexts start qs
  /-- They are listed without repetition. -/
  descriptors : r.descriptors.Perm (acceptedTexts start qs).dedup
  /-- They are counted without repetition. -/
  size : r.size = (acceptedTexts start qs).dedup.length
  /-- A text that finds a handler can be read, and runs the last handler under it. The handler is told
  the method that the text is read as. What it returns has the type that this method declares, and
  what it fails with is passed on. -/
  emulate : ∀ text ∈ acceptedTexts start qs, ∃ (m : MethodRef) (handler : Handler),
    MethodRef.parse text = .ok m ∧ m.descriptor = text ∧
      lastHandler? (start ++ qs) text = some handler ∧
      ∀ frame, (∀ v, handler ⟨frame, m⟩ = .ok v → r.emulate frame text = .ok ⟨m.returns, v⟩) ∧
        ∀ e, handler ⟨frame, m⟩ = .error e → r.emulate frame text = .error e
  /-- Any other text finds none. -/
  absent : ∀ text ∉ acceptedTexts start qs, ∀ frame,
    r.emulate frame text = .error (.emulationFailed text "no handler registered")

section Whole

variable {start qs : List Request} {r : Registry}
  (hstart : ∀ q ∈ start, ∃ m, MethodRef.parse q.text = .ok m)
  (hr : ∀ text, r.entries[text]? = (lastHandler? (start ++ qs) text).bind (registration? text))

include hstart

theorem mem_acceptedTexts_iff {text : String} :
    text ∈ acceptedTexts start qs ↔
      (∃ m, MethodRef.parse text = .ok m) ∧ ∃ q ∈ start ++ qs, q.text = text := by
  have hok : (MethodRef.parse text).isOk = true ↔ ∃ m, MethodRef.parse text = .ok m := by
    cases MethodRef.parse text with
    | error e => exact ⟨nofun, nofun⟩
    | ok m => exact ⟨fun _ => ⟨m, rfl⟩, fun _ => rfl⟩
  simp only [acceptedTexts, List.mem_append, List.mem_filter, List.mem_map, hok]
  constructor
  · rintro (⟨q, hq, rfl⟩ | ⟨⟨q, hq, rfl⟩, hread⟩)
    · exact ⟨hstart q hq, q, .inl hq, rfl⟩
    · exact ⟨hread, q, .inr hq, rfl⟩
  · rintro ⟨hread, q, hq | hq, rfl⟩
    · exact .inl ⟨q, hq, rfl⟩
    · exact .inr ⟨⟨q, hq, rfl⟩, hread⟩

include hr

theorem getElem?_of_mem_acceptedTexts {text : String} (h : text ∈ acceptedTexts start qs) :
    ∃ m handler, MethodRef.parse text = .ok m ∧ lastHandler? (start ++ qs) text = some handler ∧
      r.entries[text]? = some ⟨m, handler⟩ := by
  obtain ⟨⟨m, hm⟩, hq⟩ := (mem_acceptedTexts_iff hstart).mp h
  obtain ⟨handler, hlast⟩ := Option.isSome_iff_exists.mp (isSome_lastHandler?_iff.mpr hq)
  refine ⟨m, handler, hm, hlast, ?_⟩
  rw [hr, hlast, Option.bind_some, registration?_of_ok hm]

theorem getElem?_of_not_mem_acceptedTexts {text : String} (h : text ∉ acceptedTexts start qs) :
    r.entries[text]? = none := by
  rw [hr, Option.bind_eq_none_iff]
  intro handler hlast
  have hq := isSome_lastHandler?_iff.mp (Option.isSome_of_eq_some hlast)
  cases hparse : MethodRef.parse text with
  | error e => exact registration?_of_error hparse handler
  | ok m => exact absurd ((mem_acceptedTexts_iff hstart).mpr ⟨⟨m, hparse⟩, hq⟩) h

theorem canEmulate_iff_mem_acceptedTexts {text : String} :
    r.canEmulate text = true ↔ text ∈ acceptedTexts start qs := by
  rw [canEmulate, Std.TreeMap.contains_eq_isSome_getElem?]
  constructor
  · intro hsome
    by_contra h
    rw [getElem?_of_not_mem_acceptedTexts hstart hr h] at hsome
    exact Bool.false_ne_true hsome
  · intro h
    obtain ⟨m, handler, -, -, hentry⟩ := getElem?_of_mem_acceptedTexts hstart hr h
    rw [hentry]
    rfl

theorem descriptors_perm : r.descriptors.Perm (acceptedTexts start qs).dedup := by
  refine (List.perm_ext_iff_of_nodup Std.TreeMap.nodup_keys (List.nodup_dedup _)).mpr ?_
  intro text
  rw [Std.TreeMap.mem_keys, ← Std.TreeMap.contains_iff_mem, List.mem_dedup]
  exact canEmulate_iff_mem_acceptedTexts hstart hr

/-- What stands under the texts decides everything about a registry. -/
theorem reflects_of_getElem? : Reflects start qs r := by
  have hlisted : r.descriptors.Perm (acceptedTexts start qs).dedup := descriptors_perm hstart hr
  constructor
  case refused => exact fun q e => register_eq_error_iff
  case unchanged => exact fun q e => afterRequest_of_error
  case canEmulate => exact fun text => canEmulate_iff_mem_acceptedTexts hstart hr
  case descriptors => exact hlisted
  case size =>
    calc r.size = r.descriptors.length := Std.TreeMap.length_keys.symm
      _ = (acceptedTexts start qs).dedup.length := hlisted.length_eq
  case emulate =>
    intro text htext
    obtain ⟨m, handler, hparse, hlast, hentry⟩ := getElem?_of_mem_acceptedTexts hstart hr htext
    refine ⟨m, handler, hparse, (MethodRef.parse_eq_ok_iff.mp hparse).2, hlast, fun frame => ?_⟩
    constructor
    · intro v hv
      simp only [Registry.emulate, hentry, hv]
    · intro e he
      simp only [Registry.emulate, hentry, he]
  case absent =>
    intro text htext frame
    simp only [Registry.emulate, getElem?_of_not_mem_acceptedTexts hstart hr htext]

end Whole

/-- **A registry reflects its requests.** Whether it starts without handlers or with those of the
library. -/
theorem afterRequests_reflects (qs : List Request) :
    Reflects [] qs (empty.afterRequests qs) ∧
      Reflects Library.requests qs (library.afterRequests qs) := by
  have hempty : ∀ qs text, (empty.afterRequests qs).entries[text]? =
      (lastHandler? qs text).bind (registration? text) := by
    intro qs text
    rw [getElem?_afterRequests, empty, Std.TreeMap.getElem?_emptyc, Option.or_none]
  constructor
  · exact reflects_of_getElem? (by simp) (hempty qs)
  · refine reflects_of_getElem? (fun q => parse_of_mem_requests) fun text => ?_
    rw [library_eq_afterRequests, ← afterRequests_append]
    exact hempty (Library.requests ++ qs) text

end Registry

end CallEffects

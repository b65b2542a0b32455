import Typewire.Code.Declaration
import Typewire.Proofs.DottedNames

/-!
# Look-up in generated code

How names are found in the declarations of a generated file. A namespace opens under its name, part by
part if the name is dotted. A path is followed from the outermost declarations inwards; a name on its own
is looked for in the innermost namespace around the place first and then outwards, and a second name
leads to what it stands for. A look-up that finds two declarations of one name fails.
-/
namespace Typewire.Code

/-- The name that a declaration gives to a type of its own. A namespace adds to a type and has none. -/
def Declaration.ownName? : Declaration → Option String
  | .enumeration name _ | .secondName name _ | .callInterface name _ _ => some name
  | .messageClass decl => some decl.name
  | .nodeServer decl | .nodeClient decl _ _ | .webClient decl => some decl.name
  | .namespaced _ _ => none

/-- Whether a declaration is no type and no namespace. -/
def Declaration.isBeside : Declaration → Bool
  | .enumeration _ _ | .messageClass _ | .namespaced _ _ => false
  | _ => true

/-- Whether a declaration makes a name visible. -/
def Declaration.introduces (name : String) : Declaration → Bool
  | .namespaced path _ => Text.firstSegment path = name
  | decl => decl.ownName? = some name

/-- What a declaration holds under a name. -/
def Declaration.opened (name : String) : Declaration → List Declaration
  | .namespaced path body =>
    match Text.segments path with
    | [] => []
    | [only] => if only = name then body else []
    | first :: rest => if first = name then [.namespaced (Text.joinDots rest) body] else []
  | _ => []

/-- The declarations inside nested namespaces. -/
def inside (body : List Declaration) : List String → List Declaration
  | [] => body
  | name :: place => inside (body.flatMap (Declaration.opened name)) place

def named (body : List Declaration) (name : String) : List Declaration :=
  body.filter fun decl => decl.ownName? = some name

/-- The only declaration at the end of a path, with the place it stands in. -/
def locate (body : List Declaration) (path : List String) : Option (List String × Declaration) :=
  match named (inside body path.dropLast) (path.getLastD "") with
  | [decl] => some (path.dropLast, decl)
  | _ => none

/-- The innermost namespace around a place that makes a name visible. -/
def binder? (body : List Declaration) (place : List String) (name : String) : Option (List String) :=
  (Text.initials place ++ [[]]).find? fun around =>
    (inside body around).any (Declaration.introduces name)

/-- What a path means at a place: its first name is looked for from the place outwards, and the rest of
it from there inwards. -/
def denoted? (body : List Declaration) (place : List String) :
    List String → Option (List String × Declaration)
  | [] => none
  | first :: rest =>
    match binder? body place first with
    | none => none
    | some around =>
      match named (inside body around) first with
      | [.secondName _ target] => locate body (around ++ Text.segments target ++ rest)
      | _ => locate body (around ++ first :: rest)

theorem Declaration.ownName?_of_isBeside {decl : Declaration} (isBeside : decl.isBeside = true) :
    decl.ownName?.isSome = true := by
  cases decl <;> simp_all [Declaration.isBeside, Declaration.ownName?]

/-! ### Inside namespaces -/

theorem inside_append (body : List Declaration) (outer inner : List String) :
    inside body (outer ++ inner) = inside (inside body outer) inner := by
  induction outer generalizing body with
  | nil => rfl
  | cons name outer ih => exact ih _

theorem inside_concat (body : List Declaration) (place : List String) (name : String) :
    inside body (place ++ [name]) = (inside body place).flatMap (Declaration.opened name) :=
  inside_append body place [name]

theorem append_inside (first second : List Declaration) (place : List String) :
    inside (first ++ second) place = inside first place ++ inside second place := by
  induction place generalizing first second with
  | nil => rfl
  | cons name place ih => rw [inside, List.flatMap_append, ih, inside, inside]

theorem nil_inside (place : List String) : inside [] place = [] := by
  induction place with
  | nil => rfl
  | cons name place ih => exact ih

/-- Declarations of which none is a namespace have nothing inside. -/
theorem inside_eq_nil {body : List Declaration} (flat : ∀ decl ∈ body, decl.ownName?.isSome = true)
    {place : List String} (below : place ≠ []) : inside body place = [] := by
  obtain ⟨name, rest, rfl⟩ := List.exists_cons_of_ne_nil below
  have nothing : body.flatMap (Declaration.opened name) = [] := by
    rw [List.flatMap_eq_nil_iff]
    intro decl member
    have own := flat decl member
    cases decl <;> first | rfl | cases own
  rw [inside, nothing, nil_inside]

/-- A namespace of one part opens by its own name only. -/
theorem opened_namespaced {path name : String} (plain : Text.IsPlain path) (body : List Declaration) :
    (Declaration.namespaced path body).opened name = if path = name then body else [] := by
  rw [Declaration.opened, plain.segments]

/-- Under the first parts of its dotted name a namespace holds a namespace of the other parts. -/
theorem inside_namespaced_outer {outer inner : List String} (nonempty : inner ≠ [])
    (dotFree : ∀ part ∈ outer ++ inner, '.' ∉ part.toList) (body : List Declaration) :
    inside [.namespaced (Text.joinDots (outer ++ inner)) body] outer =
      [.namespaced (Text.joinDots inner) body] := by
  induction outer with
  | nil => rfl
  | cons first outer ih =>
    rw [List.cons_append] at dotFree ⊢
    have split := Text.segments_joinDots (List.cons_ne_nil _ _) dotFree
    have step : [Declaration.namespaced (Text.joinDots (first :: (outer ++ inner))) body].flatMap
        (Declaration.opened first) = [.namespaced (Text.joinDots (outer ++ inner)) body] := by
      obtain ⟨second, others, rest⟩ :=
        List.exists_cons_of_ne_nil (List.append_ne_nil_of_right_ne_nil outer nonempty)
      rw [rest] at split ⊢
      simp [Declaration.opened, split]
    rw [inside, step]
    exact ih fun part member => dotFree part (List.mem_cons_of_mem _ member)

/-- Under all parts of its dotted name a namespace holds its body. -/
theorem inside_namespaced {parts : List String} (nonempty : parts ≠ [])
    (dotFree : ∀ part ∈ parts, '.' ∉ part.toList) (body : List Declaration) :
    inside [.namespaced (Text.joinDots parts) body] parts = body := by
  obtain ⟨outer, last, rfl⟩ := (List.eq_nil_or_concat parts).resolve_left nonempty
  rw [List.concat_eq_append] at dotFree ⊢
  have lastFree : '.' ∉ last.toList := dotFree last (List.mem_append_right _ List.mem_cons_self)
  rw [inside_append, inside_namespaced_outer (List.cons_ne_nil _ _) dotFree, Text.joinDots_singleton]
  simp [inside, Declaration.opened, Text.segments_of_dotFree lastFree]

/-! ### Names -/

section Keys

variable {α β γ : Type} [DecidableEq β]

/-- Where keys are distinct, one element has a key. Some elements may have none. -/
theorem filter_eq_singleton_of_nodup {key? : α → Option β} {xs : List α}
    (distinct : (xs.filterMap key?).Nodup) {x : α} {key : β} (member : x ∈ xs)
    (isKey : key? x = some key) : xs.filter (fun y => key? y = some key) = [x] := by
  induction xs with
  | nil => simp at member
  | cons first xs ih =>
    cases own : key? first with
    | none =>
      rw [List.filterMap_cons_none own] at distinct
      rcases List.mem_cons.mp member with rfl | later
      · rw [own] at isKey
        cases isKey
      · rw [List.filter_cons_of_neg (by simp [own]), ih distinct later]
    | some other =>
      rw [List.filterMap_cons_some own, List.nodup_cons] at distinct
      rcases List.mem_cons.mp member with rfl | later
      · -- The first element is the one, and its key does not occur again.
        obtain rfl : other = key := Option.some.inj (own.symm.trans isKey)
        have none : xs.filter (fun y => key? y = some other) = [] := by
          rw [List.filter_eq_nil_iff]
          intro y inList equal
          exact distinct.1 (List.mem_filterMap.mpr ⟨y, inList, by simpa using equal⟩)
        rw [List.filter_cons_of_pos (by simp [own]), none]
      · have differs : other ≠ key := by
          rintro rfl
          exact distinct.1 (List.mem_filterMap.mpr ⟨x, later, isKey⟩)
        rw [List.filter_cons_of_neg (by simp [own, differs]), ih distinct.2 later]

theorem filter_key_eq_singleton {key : α → β} {xs : List α} (distinct : (xs.map key).Nodup) {x : α}
    (member : x ∈ xs) : xs.filter (fun y => key y = key x) = [x] := by
  have optional : (xs.filterMap fun y => some (key y)).Nodup := by
    rwa [List.filterMap_eq_map']
  simpa using filter_eq_singleton_of_nodup optional member rfl

theorem flatMap_ite_eq (p : α → Bool) (f : α → List γ) (xs : List α) :
    (xs.flatMap fun y => if p y then f y else []) = (xs.filter p).flatMap f := by
  induction xs with
  | nil => rfl
  | cons first xs ih =>
    rw [List.flatMap_cons, ih, List.filter_cons]
    split <;> simp

end Keys

/-! ### Paths -/

/-- A name that one declaration has at a place leads to that declaration. -/
theorem locate_concat (body : List Declaration) (place : List String) (name : String)
    {decl : Declaration} (only : named (inside body place) name = [decl]) :
    locate body (place ++ [name]) = some (place, decl) := by
  have last : (place ++ [name]).getLastD "" = name := by simp
  rw [locate, List.dropLast_concat, last, only]

theorem named_append (first second : List Declaration) (name : String) :
    named (first ++ second) name = named first name ++ named second name :=
  List.filter_append _ _

theorem named_eq_nil {body : List Declaration} {name : String}
    (absent : name ∉ body.filterMap Declaration.ownName?) : named body name = [] := by
  rw [named, List.filter_eq_nil_iff]
  intro decl member isNamed
  exact absent (List.mem_filterMap.mpr ⟨decl, member, by simpa using isNamed⟩)

/-- Where names are distinct, a declaration is the only one of its name. -/
theorem named_eq_singleton {body : List Declaration}
    (distinct : (body.filterMap Declaration.ownName?).Nodup) {decl : Declaration} {name : String}
    (member : decl ∈ body) (isNamed : decl.ownName? = some name) : named body name = [decl] :=
  filter_eq_singleton_of_nodup distinct member isNamed

end Typewire.Code

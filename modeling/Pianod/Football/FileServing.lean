import Pianod.Football.HttpRequest

/-!
# The files that are served

A request for a file opens one path.  Whatever was requested, it is below the directory that is
served, and no part of it is hidden.
-/

namespace Football

open Foundation

/-- No component of a path starts with a dot. -/
def IsVisible (name : Text) : Prop := ∀ component ∈ name.splitOn 47, component.head? ≠ some 46

/-- A path below the directory that is served. -/
def Confined (options : ServiceOptions) (path : Text) : Prop :=
  ∃ directory name, options.serveDirectory = some directory ∧
    path = directory ++ ascii "/" ++ name ∧ IsVisible name

/-- The path that is opened for a request, if one is. -/
def openedPath (options : ServiceOptions) (request : HttpRequest) : Option Text :=
  match options.serveDirectory with
  | none => none
  | some directory =>
      if maliciousRequest (requestedFile request) then none
      else some (directory ++ ascii "/" ++ requestedFile request)

/-! ## Components -/

theorem hasPair_cons (left right byte next : UInt8) (text : Text) :
    hasPair left right (byte :: next :: text) =
      (byte == left && next == right || hasPair left right (next :: text)) := rfl

/-- The first component starts as the path does. -/
theorem head_of_splitOn {name first : Text} {components : List Text} {byte : UInt8}
    (split : name.splitOn 47 = first :: components) (starts : first.head? = some byte) :
    name.head? = some byte := by
  cases name with
  | nil =>
      cases split
      exact starts
  | cons lead name =>
      rw [List.splitOn, List.splitOnP_cons_eq_if_modifyHead] at split
      split at split
      · cases split
        cases starts
      · cases rest : name.splitOnP (· == 47) with
        | nil => exact absurd rest (List.splitOnP_ne_nil _ _)
        | cons component more =>
            rw [rest] at split
            cases split
            exact starts

/-- Where no slash precedes a dot, only the first component may start with one. -/
theorem visible_tail {name first : Text} {components : List Text}
    (absent : hasPair 47 46 name = false) (split : name.splitOn 47 = first :: components) :
    ∀ component ∈ components, component.head? ≠ some 46 := by
  induction name generalizing first components with
  | nil =>
      cases split
      nofun
  | cons lead name ih =>
      have later : hasPair 47 46 name = false := by
        cases name with
        | nil => rfl
        | cons next name =>
            rw [hasPair_cons, Bool.or_eq_false_iff] at absent
            exact absent.2
      cases rest : name.splitOn 47 with
      | nil => exact absurd rest (List.splitOnP_ne_nil _ _)
      | cons component more =>
          have below := ih later rest
          rw [List.splitOn, List.splitOnP_cons_eq_if_modifyHead, ← List.splitOn, rest] at split
          split at split
          · rename_i slash
            cases split
            intro other member
            rcases List.mem_cons.mp member with rfl | deeper
            · intro dot
              obtain ⟨more, rfl⟩ : ∃ more, name = 46 :: more := by
                have starts := head_of_splitOn rest dot
                cases name with
                | nil => cases starts
                | cons next name => exact ⟨name, by rw [Option.some.inj starts]⟩
              rw [hasPair_cons, slash] at absent
              cases absent
            · exact below other deeper
          · cases split
            exact below

private theorem isVisible_of_not_malicious {name : Text}
    (accepted : maliciousRequest name = false) : IsVisible name := by
  obtain ⟨starts, absent⟩ := Bool.or_eq_false_iff.mp accepted
  intro component member
  cases split : name.splitOn 47 with
  | nil => exact absurd split (List.splitOnP_ne_nil _ _)
  | cons first components =>
      rw [split] at member
      rcases List.mem_cons.mp member with rfl | later
      · intro dot
        rw [head_of_splitOn split dot] at starts
        cases starts
      · exact visible_tail absent split component later

/-! ## Opening -/

variable {site : Site} {options : ServiceOptions} {request : HttpRequest}

theorem confined_openedPath {path : Text} (opened : openedPath options request = some path) :
    Confined options path := by
  rw [openedPath] at opened
  split at opened
  · cases opened
  · rename_i directory serves
    split at opened
    · cases opened
    · rename_i accepted
      cases opened
      exact ⟨directory, requestedFile request, serves, rfl,
        isVisible_of_not_malicious (Bool.eq_false_iff.mpr accepted)⟩

/-- The answer to a request for a file depends on the files only through the one that is opened. -/
theorem httpFileRequest_congr {openFile : Text → FileAnswer} (encrypted : Bool)
    (same : ∀ path, openedPath options request = some path →
      openFile path = site.openFile path) :
    httpFileRequest { site with openFile := openFile } options encrypted request =
      httpFileRequest site options encrypted request := by
  rw [httpFileRequest, httpFileRequest]
  dsimp only
  split
  · rfl
  · rename_i directory serves
    split
    · rfl
    · rename_i accepted
      rw [same (directory ++ ascii "/" ++ requestedFile request) (by
        rw [openedPath, serves]
        exact if_neg accepted)]
      rfl

/-- Whatever is requested, the path that is opened is below the directory and visible, and no other
file has an influence on the answer. -/
theorem fileServing_confined (site : Site) (options : ServiceOptions) (encrypted : Bool)
    (request : HttpRequest) :
    (∀ path, openedPath options request = some path → Confined options path) ∧
      ∀ openFile : Text → FileAnswer,
        (∀ path, Confined options path → openFile path = site.openFile path) →
        httpAnswer { site with openFile := openFile } options encrypted request =
          httpAnswer site options encrypted request := by
  refine ⟨fun _ => confined_openedPath, fun openFile same => ?_⟩
  have files := @httpFileRequest_congr site options request openFile encrypted fun path opened =>
    same path (confined_openedPath opened)
  rw [httpAnswer, httpAnswer, files]
  rfl

theorem fileServing_sample :
    Confined ⟨ascii "HELO", some (ascii "pianod"), some (ascii "/srv"), .off⟩
      (ascii "/srv//index.html") :=
  (fileServing_confined ⟨[], [], [], fun _ => .missing, id⟩ _ false
    (collectHttpRequest true [ascii "GET", ascii "/pianod/", ascii "HTTP/1.1"] .none)).1 _ rfl

end Football

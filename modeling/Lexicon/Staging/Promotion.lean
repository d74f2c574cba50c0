import Lexicon.Staging.Name

/-!
# Promotion

Promoting a download moves it from where it waits into the cache, over
whatever lay there. All waiting files are promoted one after the other, and
none stands in another's way: a name without separator is left alone, a name
that is cut wrongly costs the file its life, and a file that cannot be moved
stays for the next time.
-/

namespace Lexicon

/-- **Why a file was not promoted.** -/
inductive PromotionError where
  /-- Its name leads to no place in the cache. -/
  | name (error : StagingNameError)
  /-- The system refused the move. -/
  | move (source target : Path) (error : FileError)
  /-- The directory in the cache could not be asked about, or a path never
  reached the system. -/
  | file (error : FileError)
  deriving DecidableEq

/-- What is said about a file that was not promoted. -/
def PromotionError.message : PromotionError → Text
  | .name error => error.message
  | .move source target error =>
    lit "Failed to rename from " ++ source.toText ++ lit " to "
      ++ target.toText ++ lit ": " ++ error.message
  | .file error => error.message

namespace Layout

/-- **Moves one staged file into the cache**, and says where to. -/
def promote (l : Layout) (v : Volume) (staged : Path) :
    Effect (Except PromotionError Path) :=
  match StagingName.ofText staged.name with
  | .error e => ⟨v.tree, .error (.name e), []⟩
  | .ok name =>
    let dir := l.cacheDir v name.localeKey
    match dir.value with
    | .error e => ⟨dir.tree, .error (.file e), dir.log⟩
    | .ok directory =>
      let target := directory.appendText name.escapedId
      match dir.tree.rename staged target with
      | .ok t => ⟨t, .ok target, dir.log⟩
      | .error e =>
        ⟨dir.tree,
          .error (if e.isSystem then .move staged target e else .file e),
          dir.log⟩

end Layout

/-- **A run of promotions** up to some point. -/
structure Promotion where
  /-- The tree so far. -/
  tree : FileTree
  /-- The files promoted so far, where they are now. -/
  moved : List Path := []
  /-- What was reported so far. -/
  log : Log := []
  /-- What brought the run to an end before its time. -/
  failure? : Option FileError := none

namespace Promotion

/-- Deletes a staged file whose name is cut wrongly. -/
def discard (v : Volume) (staged : Path) : Effect Unit :=
  match v.unlink staged with
  | .ok t => ⟨t, (), []⟩
  | .error e =>
    ⟨v.tree, (), [⟨.error, lit "Could not delete malformed staging file "
      ++ staged.toText ++ lit ": " ++ e.message⟩]⟩

/-- One more staged file. -/
def step (l : Layout) (denied : Denials) (run : Promotion) (staged : Path) :
    Promotion :=
  if run.failure?.isSome then run
  else
    let moved := l.promote ⟨run.tree, denied⟩ staged
    let run := { run with tree := moved.tree, log := run.log ++ moved.log }
    match moved.value with
    | .ok target => { run with moved := run.moved ++ [target] }
    | .error (.name e) =>
      if e.missingSeparator then
        { run with log := run.log ++ [⟨.error, e.message⟩] }
      else
        let gone := discard ⟨run.tree, denied⟩ staged
        { run with
          tree := gone.tree
          log := run.log ++ [⟨.error, e.message ++ lit ". Deleting."⟩]
            ++ gone.log }
    | .error (.move source target e) =>
      { run with
        log := run.log
          ++ [⟨.error, (PromotionError.move source target e).message⟩] }
    | .error (.file e) => { run with failure? := some e }

/-- What is reported at the end of a run that moved something. -/
def summary (moved : List Path) : Log :=
  if moved.isEmpty then []
  else
    [⟨.info, lit "Moved " ++ Text.ofNat moved.length
      ++ lit " staged dictionaries into the cache"⟩]

end Promotion

namespace Layout

/-- **Moves every staged file into the cache** that can be moved, and says
where to. -/
def promoteAll (l : Layout) (v : Volume) :
    Effect (Except FileError (List Path)) :=
  let staged := l.stagedFiles v
  let run := staged.value.foldl (Promotion.step l v.denied)
    { tree := v.tree, log := staged.log }
  match run.failure? with
  | some e => ⟨run.tree, .error e, run.log⟩
  | none => ⟨run.tree, .ok run.moved, run.log ++ Promotion.summary run.moved⟩

end Layout

end Lexicon

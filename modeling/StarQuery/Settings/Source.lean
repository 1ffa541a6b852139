import StarQuery.Settings.Document

/-!
Where settings come from: the file that a variable names, else the one in the working directory,
else the user's own, else the defaults. A place that exists is used even if it turns out to be
unreadable.
-/
namespace StarQuery.Settings

inductive FileEntry where
  | missing
  | directory
  | file (content : ByteArray)

def FileEntry.isPresent : FileEntry → Bool
  | .missing => false
  | _ => true

structure Places where
  named : Option FileEntry := none
  working : FileEntry := .missing
  user : FileEntry := .missing

def ofFile : FileEntry → Except SettingsError Settings
  | .missing => .error .fileNotFound
  | .directory => .error .unreadable
  | .file content =>
    match String.fromUTF8? content with
    | some document => ofDocument document
    | none => .error .unreadable

def load (places : Places) : Except SettingsError Settings :=
  match places.named with
  | some entry => ofFile entry
  | none =>
    if places.working.isPresent then ofFile places.working
    else if places.user.isPresent then ofFile places.user
    else .ok {}

end StarQuery.Settings

import ServerForge.Files.Fault

/-! The operations on files that a program needs, wherever the files are. -/
namespace ServerForge.Files

class Access (m : Type → Type) where
  /-- Creates a directory and those that lead to it, as far as they are missing. -/
  makeDirectories : Path → m (Except Fault Unit)
  /-- Gives a file a text, whatever it held before. -/
  write : Path → String → m (Except Fault Unit)
  read : Path → m (Except Fault String)
  /-- Creates a file if it is missing, and lets lines be added to it. -/
  openLog : Path → m (Except Fault Unit)

export Access (makeDirectories write read openLog)

end ServerForge.Files

/-
ReleaseKit.Toolchain — the external commands of a release.

Binaries are built with the Go compiler; what is published goes to an object
store through `gsutil`, and everything uploaded is opened to all readers.
-/
import ReleaseKit.CommandLine
import ReleaseKit.LocalPath
import ReleaseKit.Target

namespace ReleaseKit.Toolchain

def go : String := "go"

def gsutil : String := "gsutil"

/-- The grant that every uploaded object gets. -/
def publicRead : String := "AllUsers:R"

/-- `GOOS=<os> GOARCH=<arch> go build -ldflags=<flags> -o <output> <sources>`,
without the flags if there are none. -/
def goBuild (target : Target) (ldflags : String) (output : LocalPath) (sources : List String) :
    CommandLine where
  program := go
  args :=
    ["build"] ++ (if ldflags = "" then [] else ["-ldflags=" ++ ldflags]) ++
      ["-o", output.text] ++ sources
  env := [("GOOS", target.os.name), ("GOARCH", target.arch.name)]

/-- `gsutil cp <source> <dest>` -/
def upload (source : LocalPath) (dest : String) : CommandLine :=
  ⟨gsutil, ["cp", source.text, dest], []⟩

/-- `gsutil cp -r <source> <dest>` -/
def uploadDir (source : LocalPath) (dest : String) : CommandLine :=
  ⟨gsutil, ["cp", "-r", source.text, dest], []⟩

/-- `gsutil acl ch -u AllUsers:R <url>` -/
def grantPublicRead (url : String) : CommandLine :=
  ⟨gsutil, ["acl", "ch", "-u", publicRead, url], []⟩

/-- `gsutil acl ch -u AllUsers:R -r <url>` -/
def grantPublicReadBelow (url : String) : CommandLine :=
  ⟨gsutil, ["acl", "ch", "-u", publicRead, "-r", url], []⟩

end ReleaseKit.Toolchain

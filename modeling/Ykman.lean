import Ykman.Piv.Basic
import Ykman.Piv.Cli
import Ykman.Piv.Access
import Ykman.Piv.Commands
import Ykman.Piv.Resolver
import Ykman.Piv.Rejection
import Ykman.Piv.Force
import Ykman.Piv.Input
import Ykman.Piv.Import
import Ykman.Piv.Writes

import PathRouter.Broadcast
import PathRouter.Main
import PathRouter.Proofs.Cache.Truncation
import PathRouter.Proofs.Callback
import PathRouter.Proofs.Config.Duplicates
import PathRouter.Proofs.FileTree.Replacement
import PathRouter.Proofs.Path.Canonical
import PathRouter.Proofs.Route.Binding
import PathRouter.Proofs.Route.Parameters
import PathRouter.Proofs.Server.Accounting
import PathRouter.Proofs.Server.Broadcast
import PathRouter.Proofs.Server.NotFound
import PathRouter.Proofs.Server.Reload
import PathRouter.Proofs.Startup.Agreement
import PathRouter.Proofs.Startup.Dispatch
import PathRouter.Proofs.Startup.Freshness
import PathRouter.Proofs.Startup.Shadowing
import PathRouter.Proofs.Table.Captures
import PathRouter.Proofs.Table.Filled
import PathRouter.Proofs.Table.Imports
import PathRouter.Proofs.Table.Interleaving
import PathRouter.Proofs.Table.LetterCase
import PathRouter.Proofs.Table.Replay
import PathRouter.Proofs.Template.Grammar
import PathRouter.Proofs.Template.Writing
import PathRouter.Proofs.Tool.Cache
import PathRouter.Server.Launch
import PathRouter.Server.Watch

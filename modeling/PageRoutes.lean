import PageRoutes.Declaration.Outline
import PageRoutes.Interface
import PageRoutes.Main
import PageRoutes.Proofs.Config.Unreported
import PageRoutes.Proofs.Declaration.Arrangement
import PageRoutes.Proofs.Declaration.Elements
import PageRoutes.Proofs.Declaration.Nesting
import PageRoutes.Proofs.Declaration.Pruning
import PageRoutes.Proofs.Declaration.ReadBack
import PageRoutes.Proofs.Declaration.SiblingOrder
import PageRoutes.Proofs.Discovery.Visited
import PageRoutes.Proofs.EventLog.Summary
import PageRoutes.Proofs.Generation.Alike
import PageRoutes.Proofs.Generation.Result
import PageRoutes.Proofs.Page.Directories
import PageRoutes.Proofs.Route.Groups
import PageRoutes.Proofs.RouteTree.OldRanks
import PageRoutes.Proofs.RouteTree.Queries
import PageRoutes.Proofs.RoutesModule.Quotes
import PageRoutes.Proofs.RoutesModule.Specifier
import PageRoutes.Proofs.StagedWrite.Atomic
import PageRoutes.Proofs.Watch.Chronicle
import PageRoutes.Proofs.Watch.Current
import PageRoutes.Proofs.Watch.Enumeration
import PageRoutes.RouteTree.Living
import PageRoutes.RouteTree.Pruning

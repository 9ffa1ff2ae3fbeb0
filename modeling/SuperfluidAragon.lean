import SuperfluidAragon.Foundation.List
import SuperfluidAragon.Store.Types
import SuperfluidAragon.Store.EventHandlers
import SuperfluidAragon.Store.Reducer
import SuperfluidAragon.Components.Flows
import SuperfluidAragon.Store.Registry
import SuperfluidAragon.Ledger.Basic
import SuperfluidAragon.Ledger.History
import SuperfluidAragon.Ledger.Feed
import SuperfluidAragon.Ledger.Agreement
import SuperfluidAragon.Ledger.Balances
import SuperfluidAragon.Hooks.Rates
import SuperfluidAragon.Hooks.ConvertRates
import SuperfluidAragon.Hooks.Backoff
import SuperfluidAragon.Hooks.RatesHistory

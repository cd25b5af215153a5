import CortxMessageBus.Dict
import CortxMessageBus.Kafka
import CortxMessageBus.Broker
import CortxMessageBus.Callbacks
import CortxMessageBus.InitClient
import CortxMessageBus.Confirm
import CortxMessageBus.Topics
import CortxMessageBus.AlterConfigs
import CortxMessageBus.Retention
import CortxMessageBus.Producer
import CortxMessageBus.Consumer
import CortxMessageBus.System
import CortxMessageBus.Runs

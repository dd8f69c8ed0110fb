import JobDispatch.Zone.Basic

/-!
Some time zones, with their offsets from 2005 on: the oldest offset of each is the one in force at
the beginning of that year, and says nothing about earlier times.

`Zone.known` lists them.
-/

namespace JobDispatch.Zone

/-- The zone `UTC`. -/
def utc : Zone where
  name := "UTC"
  oldest := 0
  changes := []

/-- The zone `Europe/Prague`. -/
def europePrague : Zone where
  name := "Europe/Prague"
  oldest := 60
  changes := [
    (18531420, 120), (18843900, 60), (19055580, 120), (19368060, 60), (19579740, 120),
    (19892220, 60), (20113980, 120), (20416380, 60), (20638140, 120), (20940540, 60),
    (21162300, 120), (21474780, 60), (21686460, 120), (21998940, 60), (22210620, 120),
    (22523100, 60), (22744860, 120), (23047260, 60), (23269020, 120), (23571420, 60),
    (23793180, 120), (24095580, 60), (24317340, 120), (24629820, 60), (24841500, 120),
    (25153980, 60), (25365660, 120), (25678140, 60), (25899900, 120), (26202300, 60),
    (26424060, 120), (26726460, 60), (26948220, 120), (27260700, 60), (27472380, 120),
    (27784860, 60), (27996540, 120), (28309020, 60), (28530780, 120), (28833180, 60),
    (29054940, 120), (29357340, 60), (29579100, 120), (29881500, 60), (30103260, 120),
    (30415740, 60), (30627420, 120), (30939900, 60), (31151580, 120), (31464060, 60),
    (31685820, 120), (31988220, 60), (32209980, 120), (32512380, 60), (32734140, 120),
    (33046620, 60), (33258300, 120), (33570780, 60), (33782460, 120), (34094940, 60),
    (34306620, 120), (34619100, 60), (34840860, 120), (35143260, 60), (35365020, 120),
    (35667420, 60), (35889180, 120), (36201660, 60), (36413340, 120), (36725820, 60),
    (36937500, 120), (37249980, 60), (37471740, 120), (37774140, 60), (37995900, 120),
    (38298300, 60), (38520060, 120), (38822460, 60), (39044220, 120), (39356700, 60),
    (39568380, 120), (39880860, 60), (40092540, 120), (40405020, 60), (40626780, 120),
    (40929180, 60), (41150940, 120), (41453340, 60), (41675100, 120), (41987580, 60),
    (42199260, 120), (42511740, 60), (42723420, 120), (43035900, 60), (43257660, 120),
    (43560060, 60), (43781820, 120), (44084220, 60), (44305980, 120), (44608380, 60),
    (44830140, 120), (45142620, 60), (45354300, 120), (45666780, 60), (45878460, 120),
    (46190940, 60), (46412700, 120), (46715100, 60), (46936860, 120), (47239260, 60),
    (47461020, 120), (47773500, 60), (47985180, 120), (48297660, 60), (48509340, 120),
    (48821820, 60), (49033500, 120), (49345980, 60), (49567740, 120), (49870140, 60),
    (50091900, 120), (50394300, 60), (50616060, 120), (50928540, 60), (51140220, 120),
    (51452700, 60), (51664380, 120), (51976860, 60), (52198620, 120), (52501020, 60),
    (52722780, 120), (53025180, 60), (53246940, 120), (53549340, 60), (53771100, 120),
    (54083580, 60), (54295260, 120), (54607740, 60), (54819420, 120), (55131900, 60),
    (55353660, 120), (55656060, 60), (55877820, 120), (56180220, 60), (56401980, 120),
    (56714460, 60), (56926140, 120), (57238620, 60), (57450300, 120), (57762780, 60),
    (57984540, 120), (58286940, 60), (58508700, 120), (58811100, 60), (59032860, 120),
    (59335260, 60), (59557020, 120), (59869500, 60), (60081180, 120), (60393660, 60),
    (60605340, 120), (60917820, 60), (61139580, 120), (61441980, 60), (61663740, 120),
    (61966140, 60), (62187900, 120), (62500380, 60), (62712060, 120), (63024540, 60),
    (63236220, 120), (63548700, 60), (63760380, 120), (64072860, 60), (64294620, 120),
    (64597020, 60), (64818780, 120), (65121180, 60), (65342940, 120), (65655420, 60),
    (65867100, 120), (66179580, 60), (66391260, 120), (66703740, 60), (66925500, 120),
    (67227900, 60), (67449660, 120), (67752060, 60), (67973820, 120), (68276220, 60)]

/-- The zone `Europe/London`. -/
def europeLondon : Zone where
  name := "Europe/London"
  oldest := 0
  changes := [
    (18531420, 60), (18843900, 0), (19055580, 60), (19368060, 0), (19579740, 60), (19892220, 0),
    (20113980, 60), (20416380, 0), (20638140, 60), (20940540, 0), (21162300, 60), (21474780, 0),
    (21686460, 60), (21998940, 0), (22210620, 60), (22523100, 0), (22744860, 60), (23047260, 0),
    (23269020, 60), (23571420, 0), (23793180, 60), (24095580, 0), (24317340, 60), (24629820, 0),
    (24841500, 60), (25153980, 0), (25365660, 60), (25678140, 0), (25899900, 60), (26202300, 0),
    (26424060, 60), (26726460, 0), (26948220, 60), (27260700, 0), (27472380, 60), (27784860, 0),
    (27996540, 60), (28309020, 0), (28530780, 60), (28833180, 0), (29054940, 60), (29357340, 0),
    (29579100, 60), (29881500, 0), (30103260, 60), (30415740, 0), (30627420, 60), (30939900, 0),
    (31151580, 60), (31464060, 0), (31685820, 60), (31988220, 0), (32209980, 60), (32512380, 0),
    (32734140, 60), (33046620, 0), (33258300, 60), (33570780, 0), (33782460, 60), (34094940, 0),
    (34306620, 60), (34619100, 0), (34840860, 60), (35143260, 0), (35365020, 60), (35667420, 0),
    (35889180, 60), (36201660, 0), (36413340, 60), (36725820, 0), (36937500, 60), (37249980, 0),
    (37471740, 60), (37774140, 0), (37995900, 60), (38298300, 0), (38520060, 60), (38822460, 0),
    (39044220, 60), (39356700, 0), (39568380, 60), (39880860, 0), (40092540, 60), (40405020, 0),
    (40626780, 60), (40929180, 0), (41150940, 60), (41453340, 0), (41675100, 60), (41987580, 0),
    (42199260, 60), (42511740, 0), (42723420, 60), (43035900, 0), (43257660, 60), (43560060, 0),
    (43781820, 60), (44084220, 0), (44305980, 60), (44608380, 0), (44830140, 60), (45142620, 0),
    (45354300, 60), (45666780, 0), (45878460, 60), (46190940, 0), (46412700, 60), (46715100, 0),
    (46936860, 60), (47239260, 0), (47461020, 60), (47773500, 0), (47985180, 60), (48297660, 0),
    (48509340, 60), (48821820, 0), (49033500, 60), (49345980, 0), (49567740, 60), (49870140, 0),
    (50091900, 60), (50394300, 0), (50616060, 60), (50928540, 0), (51140220, 60), (51452700, 0),
    (51664380, 60), (51976860, 0), (52198620, 60), (52501020, 0), (52722780, 60), (53025180, 0),
    (53246940, 60), (53549340, 0), (53771100, 60), (54083580, 0), (54295260, 60), (54607740, 0),
    (54819420, 60), (55131900, 0), (55353660, 60), (55656060, 0), (55877820, 60), (56180220, 0),
    (56401980, 60), (56714460, 0), (56926140, 60), (57238620, 0), (57450300, 60), (57762780, 0),
    (57984540, 60), (58286940, 0), (58508700, 60), (58811100, 0), (59032860, 60), (59335260, 0),
    (59557020, 60), (59869500, 0), (60081180, 60), (60393660, 0), (60605340, 60), (60917820, 0),
    (61139580, 60), (61441980, 0), (61663740, 60), (61966140, 0), (62187900, 60), (62500380, 0),
    (62712060, 60), (63024540, 0), (63236220, 60), (63548700, 0), (63760380, 60), (64072860, 0),
    (64294620, 60), (64597020, 0), (64818780, 60), (65121180, 0), (65342940, 60), (65655420, 0),
    (65867100, 60), (66179580, 0), (66391260, 60), (66703740, 0), (66925500, 60), (67227900, 0),
    (67449660, 60), (67752060, 0), (67973820, 60), (68276220, 0)]

/-- The zone `America/New_York`. -/
def americaNewYork : Zone where
  name := "America/New_York"
  oldest := -300
  changes := [
    (18541860, -240), (18844200, -300), (19066020, -240), (19368360, -300), (19559940, -240),
    (19902600, -300), (20084100, -240), (20426760, -300), (20608260, -240), (20950920, -300),
    (21142500, -240), (21485160, -300), (21666660, -240), (22009320, -300), (22190820, -240),
    (22533480, -300), (22714980, -240), (23057640, -300), (23239140, -240), (23581800, -300),
    (23763300, -240), (24105960, -300), (24297540, -240), (24640200, -300), (24821700, -240),
    (25164360, -300), (25345860, -240), (25688520, -300), (25870020, -240), (26212680, -300),
    (26394180, -240), (26736840, -300), (26928420, -240), (27271080, -300), (27452580, -240),
    (27795240, -300), (27976740, -240), (28319400, -300), (28500900, -240), (28843560, -300),
    (29025060, -240), (29367720, -300), (29549220, -240), (29891880, -300), (30083460, -240),
    (30426120, -300), (30607620, -240), (30950280, -300), (31131780, -240), (31474440, -300),
    (31655940, -240), (31998600, -300), (32180100, -240), (32522760, -300), (32714340, -240),
    (33057000, -300), (33238500, -240), (33581160, -300), (33762660, -240), (34105320, -300),
    (34286820, -240), (34629480, -300), (34810980, -240), (35153640, -300), (35335140, -240),
    (35677800, -300), (35869380, -240), (36212040, -300), (36393540, -240), (36736200, -300),
    (36917700, -240), (37260360, -300), (37441860, -240), (37784520, -300), (37966020, -240),
    (38308680, -300), (38490180, -240), (38832840, -300), (39024420, -240), (39367080, -300),
    (39548580, -240), (39891240, -300), (40072740, -240), (40415400, -300), (40596900, -240),
    (40939560, -300), (41121060, -240), (41463720, -300), (41655300, -240), (41997960, -300),
    (42179460, -240), (42522120, -300), (42703620, -240), (43046280, -300), (43227780, -240),
    (43570440, -300), (43751940, -240), (44094600, -300), (44276100, -240), (44618760, -300),
    (44810340, -240), (45153000, -300), (45334500, -240), (45677160, -300), (45858660, -240),
    (46201320, -300), (46382820, -240), (46725480, -300), (46906980, -240), (47249640, -300),
    (47441220, -240), (47783880, -300), (47965380, -240), (48308040, -300), (48489540, -240),
    (48832200, -300), (49013700, -240), (49356360, -300), (49537860, -240), (49880520, -300),
    (50062020, -240), (50404680, -300), (50596260, -240), (50938920, -300), (51120420, -240),
    (51463080, -300), (51644580, -240), (51987240, -300), (52168740, -240), (52511400, -300),
    (52692900, -240), (53035560, -300), (53217060, -240), (53559720, -300), (53751300, -240),
    (54093960, -300), (54275460, -240), (54618120, -300), (54799620, -240), (55142280, -300),
    (55323780, -240), (55666440, -300), (55847940, -240), (56190600, -300), (56382180, -240),
    (56724840, -300), (56906340, -240), (57249000, -300), (57430500, -240), (57773160, -300),
    (57954660, -240), (58297320, -300), (58478820, -240), (58821480, -300), (59002980, -240),
    (59345640, -300), (59537220, -240), (59879880, -300), (60061380, -240), (60404040, -300),
    (60585540, -240), (60928200, -300), (61109700, -240), (61452360, -300), (61633860, -240),
    (61976520, -300), (62168100, -240), (62510760, -300), (62692260, -240), (63034920, -300),
    (63216420, -240), (63559080, -300), (63740580, -240), (64083240, -300), (64264740, -240),
    (64607400, -300), (64788900, -240), (65131560, -300), (65323140, -240), (65665800, -300),
    (65847300, -240), (66189960, -300), (66371460, -240), (66714120, -300), (66895620, -240),
    (67238280, -300), (67419780, -240), (67762440, -300), (67943940, -240), (68286600, -300)]

/-- The zone `America/St_Johns`. -/
def americaStJohns : Zone where
  name := "America/St_Johns"
  oldest := -210
  changes := [
    (18541651, -150), (18843991, -210), (19065811, -150), (19368151, -210), (19559731, -150),
    (19902391, -210), (20083891, -150), (20426551, -210), (20608051, -150), (20950711, -210),
    (21142291, -150), (21484951, -210), (21666451, -150), (22009230, -210), (22190730, -150),
    (22533390, -210), (22714890, -150), (23057550, -210), (23239050, -150), (23581710, -210),
    (23763210, -150), (24105870, -210), (24297450, -150), (24640110, -210), (24821610, -150),
    (25164270, -210), (25345770, -150), (25688430, -210), (25869930, -150), (26212590, -210),
    (26394090, -150), (26736750, -210), (26928330, -150), (27270990, -210), (27452490, -150),
    (27795150, -210), (27976650, -150), (28319310, -210), (28500810, -150), (28843470, -210),
    (29024970, -150), (29367630, -210), (29549130, -150), (29891790, -210), (30083370, -150),
    (30426030, -210), (30607530, -150), (30950190, -210), (31131690, -150), (31474350, -210),
    (31655850, -150), (31998510, -210), (32180010, -150), (32522670, -210), (32714250, -150),
    (33056910, -210), (33238410, -150), (33581070, -210), (33762570, -150), (34105230, -210),
    (34286730, -150), (34629390, -210), (34810890, -150), (35153550, -210), (35335050, -150),
    (35677710, -210), (35869290, -150), (36211950, -210), (36393450, -150), (36736110, -210),
    (36917610, -150), (37260270, -210), (37441770, -150), (37784430, -210), (37965930, -150),
    (38308590, -210), (38490090, -150), (38832750, -210), (39024330, -150), (39366990, -210),
    (39548490, -150), (39891150, -210), (40072650, -150), (40415310, -210), (40596810, -150),
    (40939470, -210), (41120970, -150), (41463630, -210), (41655210, -150), (41997870, -210),
    (42179370, -150), (42522030, -210), (42703530, -150), (43046190, -210), (43227690, -150),
    (43570350, -210), (43751850, -150), (44094510, -210), (44276010, -150), (44618670, -210),
    (44810250, -150), (45152910, -210), (45334410, -150), (45677070, -210), (45858570, -150),
    (46201230, -210), (46382730, -150), (46725390, -210), (46906890, -150), (47249550, -210),
    (47441130, -150), (47783790, -210), (47965290, -150), (48307950, -210), (48489450, -150),
    (48832110, -210), (49013610, -150), (49356270, -210), (49537770, -150), (49880430, -210),
    (50061930, -150), (50404590, -210), (50596170, -150), (50938830, -210), (51120330, -150),
    (51462990, -210), (51644490, -150), (51987150, -210), (52168650, -150), (52511310, -210),
    (52692810, -150), (53035470, -210), (53216970, -150), (53559630, -210), (53751210, -150),
    (54093870, -210), (54275370, -150), (54618030, -210), (54799530, -150), (55142190, -210),
    (55323690, -150), (55666350, -210), (55847850, -150), (56190510, -210), (56382090, -150),
    (56724750, -210), (56906250, -150), (57248910, -210), (57430410, -150), (57773070, -210),
    (57954570, -150), (58297230, -210), (58478730, -150), (58821390, -210), (59002890, -150),
    (59345550, -210), (59537130, -150), (59879790, -210), (60061290, -150), (60403950, -210),
    (60585450, -150), (60928110, -210), (61109610, -150), (61452270, -210), (61633770, -150),
    (61976430, -210), (62168010, -150), (62510670, -210), (62692170, -150), (63034830, -210),
    (63216330, -150), (63558990, -210), (63740490, -150), (64083150, -210), (64264650, -150),
    (64607310, -210), (64788810, -150), (65131470, -210), (65323050, -150), (65665710, -210),
    (65847210, -150), (66189870, -210), (66371370, -150), (66714030, -210), (66895530, -150),
    (67238190, -210), (67419690, -150), (67762350, -210), (67943850, -150), (68286510, -210)]

/-- The zone `America/Sao_Paulo`. -/
def americaSaoPaulo : Zone where
  name := "America/Sao_Paulo"
  oldest := -120
  changes := [
    (18481080, -180), (18823860, -120), (19005240, -180), (19378260, -120), (19539480, -180),
    (19872180, -120), (20053560, -180), (20406420, -120), (20577720, -180), (20930580, -120),
    (21111960, -180), (21454740, -120), (21636120, -180), (21978900, -120), (22170360, -180),
    (22513140, -120), (22684440, -180), (23037300, -120), (23208600, -180), (23561460, -120),
    (23742840, -180), (24085620, -120), (24267000, -180), (24609780, -120), (24791160, -180),
    (25133940, -120), (25315320, -180), (25688340, -120), (25839480, -180)]

/-- The zone `America/Santiago`. -/
def americaSantiago : Zone where
  name := "America/Santiago"
  oldest := -180
  changes := [
    (18511380, -240), (18813840, -180), (19035540, -240), (19348080, -180), (19559700, -240),
    (19872240, -180), (20114100, -240), (20396400, -180), (20618100, -240), (20920560, -180),
    (21172500, -240), (21444720, -180), (21747060, -240), (21898320, -180), (22261140, -240),
    (22442640, -180), (22785300, -240), (22976880, -180), (23309460, -240), (23501040, -180),
    (24388020, -240), (24519120, -180), (24912180, -240), (25043280, -180), (25436340, -240),
    (25567440, -180), (25910100, -240), (26131920, -180), (26434260, -240), (26656080, -180),
    (26958420, -240), (27180240, -180), (27482580, -240), (27714480, -180), (28006740, -240),
    (28228560, -180), (28540980, -240), (28762800, -180), (29065140, -240), (29286960, -180),
    (29589300, -240), (29811120, -180), (30113460, -240), (30335280, -180), (30637620, -240),
    (30859440, -180), (31171860, -240), (31383600, -180), (31696020, -240), (31917840, -180),
    (32220180, -240), (32442000, -180), (32744340, -240), (32966160, -180), (33268500, -240),
    (33490320, -180), (33792660, -240), (34014480, -180), (34326900, -240), (34538640, -180),
    (34851060, -240), (35072880, -180), (35375220, -240), (35597040, -180), (35899380, -240),
    (36121200, -180), (36423540, -240), (36645360, -180), (36957780, -240), (37169520, -180),
    (37481940, -240), (37703760, -180), (38006100, -240), (38227920, -180), (38530260, -240),
    (38752080, -180), (39054420, -240), (39276240, -180), (39578580, -240), (39800400, -180),
    (40112820, -240), (40324560, -180), (40636980, -240), (40858800, -180), (41161140, -240),
    (41382960, -180), (41685300, -240), (41907120, -180), (42209460, -240), (42431280, -180),
    (42733620, -240), (42955440, -180), (43267860, -240), (43489680, -180), (43792020, -240),
    (44013840, -180), (44316180, -240), (44538000, -180), (44840340, -240), (45062160, -180),
    (45364500, -240), (45586320, -180), (45898740, -240), (46110480, -180), (46422900, -240),
    (46644720, -180), (46947060, -240), (47168880, -180), (47471220, -240), (47693040, -180),
    (47995380, -240), (48217200, -180), (48519540, -240), (48741360, -180), (49053780, -240),
    (49265520, -180), (49577940, -240), (49799760, -180), (50102100, -240), (50323920, -180),
    (50626260, -240), (50848080, -180), (51150420, -240), (51372240, -180), (51684660, -240),
    (51896400, -180), (52208820, -240), (52430640, -180), (52732980, -240), (52954800, -180),
    (53257140, -240), (53478960, -180), (53781300, -240), (54003120, -180), (54305460, -240),
    (54527280, -180), (54839700, -240), (55051440, -180), (55363860, -240), (55585680, -180),
    (55888020, -240), (56109840, -180), (56412180, -240), (56634000, -180), (56936340, -240),
    (57158160, -180), (57460500, -240), (57682320, -180), (57994740, -240), (58216560, -180),
    (58518900, -240), (58740720, -180), (59043060, -240), (59264880, -180), (59567220, -240),
    (59789040, -180), (60091380, -240), (60313200, -180), (60625620, -240), (60837360, -180),
    (61149780, -240), (61371600, -180), (61673940, -240), (61895760, -180), (62198100, -240),
    (62419920, -180), (62722260, -240), (62944080, -180), (63246420, -240), (63468240, -180),
    (63780660, -240), (63992400, -180), (64304820, -240), (64526640, -180), (64828980, -240),
    (65050800, -180), (65353140, -240), (65574960, -180), (65877300, -240), (66099120, -180),
    (66411540, -240), (66623280, -180), (66935700, -240), (67157520, -180), (67459860, -240),
    (67681680, -180), (67984020, -240), (68205840, -180)]

/-- The zone `Asia/Kolkata`. -/
def asiaKolkata : Zone where
  name := "Asia/Kolkata"
  oldest := 330
  changes := []

/-- The zone `Asia/Kathmandu`. -/
def asiaKathmandu : Zone where
  name := "Asia/Kathmandu"
  oldest := 345
  changes := []

/-- The zone `Asia/Tokyo`. -/
def asiaTokyo : Zone where
  name := "Asia/Tokyo"
  oldest := 540
  changes := []

/-- The zone `Asia/Beirut`. -/
def asiaBeirut : Zone where
  name := "Asia/Beirut"
  oldest := 120
  changes := [
    (18531240, 180), (18843660, 120), (19055400, 180), (19367820, 120), (19579560, 180),
    (19891980, 120), (20113800, 180), (20416140, 120), (20637960, 180), (20940300, 120),
    (21162120, 180), (21474540, 120), (21686280, 180), (21998700, 120), (22210440, 180),
    (22522860, 120), (22744680, 180), (23047020, 120), (23268840, 180), (23571180, 120),
    (23793000, 180), (24095340, 120), (24317160, 180), (24629580, 120), (24841320, 180),
    (25153740, 120), (25365480, 180), (25677900, 120), (25899720, 180), (26202060, 120),
    (26423880, 180), (26726220, 120), (26948040, 180), (27260460, 120), (27472200, 180),
    (27784620, 120), (27996360, 180), (28308780, 120), (28530600, 180), (28832940, 120),
    (29054760, 180), (29357100, 120), (29578920, 180), (29881260, 120), (30103080, 180),
    (30415500, 120), (30627240, 180), (30939660, 120), (31151400, 180), (31463820, 120),
    (31685640, 180), (31987980, 120), (32209800, 180), (32512140, 120), (32733960, 180),
    (33046380, 120), (33258120, 180), (33570540, 120), (33782280, 180), (34094700, 120),
    (34306440, 180), (34618860, 120), (34840680, 180), (35143020, 120), (35364840, 180),
    (35667180, 120), (35889000, 180), (36201420, 120), (36413160, 180), (36725580, 120),
    (36937320, 180), (37249740, 120), (37471560, 180), (37773900, 120), (37995720, 180),
    (38298060, 120), (38519880, 180), (38822220, 120), (39044040, 180), (39356460, 120),
    (39568200, 180), (39880620, 120), (40092360, 180), (40404780, 120), (40626600, 180),
    (40928940, 120), (41150760, 180), (41453100, 120), (41674920, 180), (41987340, 120),
    (42199080, 180), (42511500, 120), (42723240, 180), (43035660, 120), (43257480, 180),
    (43559820, 120), (43781640, 180), (44083980, 120), (44305800, 180), (44608140, 120),
    (44829960, 180), (45142380, 120), (45354120, 180), (45666540, 120), (45878280, 180),
    (46190700, 120), (46412520, 180), (46714860, 120), (46936680, 180), (47239020, 120),
    (47460840, 180), (47773260, 120), (47985000, 180), (48297420, 120), (48509160, 180),
    (48821580, 120), (49033320, 180), (49345740, 120), (49567560, 180), (49869900, 120),
    (50091720, 180), (50394060, 120), (50615880, 180), (50928300, 120), (51140040, 180),
    (51452460, 120), (51664200, 180), (51976620, 120), (52198440, 180), (52500780, 120),
    (52722600, 180), (53024940, 120), (53246760, 180), (53549100, 120), (53770920, 180),
    (54083340, 120), (54295080, 180), (54607500, 120), (54819240, 180), (55131660, 120),
    (55353480, 180), (55655820, 120), (55877640, 180), (56179980, 120), (56401800, 180),
    (56714220, 120), (56925960, 180), (57238380, 120), (57450120, 180), (57762540, 120),
    (57984360, 180), (58286700, 120), (58508520, 180), (58810860, 120), (59032680, 180),
    (59335020, 120), (59556840, 180), (59869260, 120), (60081000, 180), (60393420, 120),
    (60605160, 180), (60917580, 120), (61139400, 180), (61441740, 120), (61663560, 180),
    (61965900, 120), (62187720, 180), (62500140, 120), (62711880, 180), (63024300, 120),
    (63236040, 180), (63548460, 120), (63760200, 180), (64072620, 120), (64294440, 180),
    (64596780, 120), (64818600, 180), (65120940, 120), (65342760, 180), (65655180, 120),
    (65866920, 180), (66179340, 120), (66391080, 180), (66703500, 120), (66925320, 180),
    (67227660, 120), (67449480, 180), (67751820, 120), (67973640, 180), (68275980, 120)]

/-- The zone `Australia/Lord_Howe`. -/
def australiaLordHowe : Zone where
  name := "Australia/Lord_Howe"
  oldest := 660
  changes := [
    (18530820, 630), (18843330, 660), (19065060, 630), (19367490, 660), (19579140, 630),
    (19891650, 660), (20123460, 630), (20385570, 660), (20647620, 630), (20909730, 660),
    (21171780, 630), (21433890, 660), (21695940, 630), (21958050, 660), (22220100, 630),
    (22492290, 660), (22754340, 630), (23016450, 660), (23278500, 630), (23540610, 660),
    (23802660, 630), (24064770, 660), (24326820, 630), (24588930, 660), (24850980, 630),
    (25113090, 660), (25375140, 630), (25647330, 660), (25909380, 630), (26171490, 660),
    (26433540, 630), (26695650, 660), (26957700, 630), (27219810, 660), (27481860, 630),
    (27743970, 660), (28006020, 630), (28268130, 660), (28540260, 630), (28802370, 660),
    (29064420, 630), (29326530, 660), (29588580, 630), (29850690, 660), (30112740, 630),
    (30374850, 660), (30636900, 630), (30899010, 660), (31161060, 630), (31433250, 660),
    (31695300, 630), (31957410, 660), (32219460, 630), (32481570, 660), (32743620, 630),
    (33005730, 660), (33267780, 630), (33529890, 660), (33791940, 630), (34054050, 660),
    (34316100, 630), (34588290, 660), (34850340, 630), (35112450, 660), (35374500, 630),
    (35636610, 660), (35898660, 630), (36160770, 660), (36422820, 630), (36684930, 660),
    (36946980, 630), (37219170, 660), (37481220, 630), (37743330, 660), (38005380, 630),
    (38267490, 660), (38529540, 630), (38791650, 660), (39053700, 630), (39315810, 660),
    (39577860, 630), (39839970, 660), (40102020, 630), (40374210, 660), (40636260, 630),
    (40898370, 660), (41160420, 630), (41422530, 660), (41684580, 630), (41946690, 660),
    (42208740, 630), (42470850, 660), (42732900, 630), (42995010, 660), (43267140, 630),
    (43529250, 660), (43791300, 630), (44053410, 660), (44315460, 630), (44577570, 660),
    (44839620, 630), (45101730, 660), (45363780, 630), (45625890, 660), (45887940, 630),
    (46160130, 660), (46422180, 630), (46684290, 660), (46946340, 630), (47208450, 660),
    (47470500, 630), (47732610, 660), (47994660, 630), (48256770, 660), (48518820, 630),
    (48780930, 660), (49042980, 630), (49315170, 660), (49577220, 630), (49839330, 660),
    (50101380, 630), (50363490, 660), (50625540, 630), (50887650, 660), (51149700, 630),
    (51411810, 660), (51673860, 630), (51946050, 660), (52208100, 630), (52470210, 660),
    (52732260, 630), (52994370, 660), (53256420, 630), (53518530, 660), (53780580, 630),
    (54042690, 660), (54304740, 630), (54566850, 660), (54828900, 630), (55101090, 660),
    (55363140, 630), (55625250, 660), (55887300, 630), (56149410, 660), (56411460, 630),
    (56673570, 660), (56935620, 630), (57197730, 660), (57459780, 630), (57721890, 660),
    (57994020, 630), (58256130, 660), (58518180, 630), (58780290, 660), (59042340, 630),
    (59304450, 660), (59566500, 630), (59828610, 660), (60090660, 630), (60352770, 660),
    (60614820, 630), (60887010, 660), (61149060, 630), (61411170, 660), (61673220, 630),
    (61935330, 660), (62197380, 630), (62459490, 660), (62721540, 630), (62983650, 660),
    (63245700, 630), (63507810, 660), (63769860, 630), (64042050, 660), (64304100, 630),
    (64566210, 660), (64828260, 630), (65090370, 660), (65352420, 630), (65614530, 660),
    (65876580, 630), (66138690, 660), (66400740, 630), (66672930, 660), (66934980, 630),
    (67197090, 660), (67459140, 630), (67721250, 660), (67983300, 630), (68245410, 660)]

/-- The zone `Pacific/Apia`. -/
def pacificApia : Zone where
  name := "Pacific/Apia"
  oldest := -660
  changes := [
    (21424980, -600), (21695880, -660), (21947880, -600), (22087320, 840), (22220040, 780),
    (22482120, 840), (22754280, 780), (23006280, 840), (23278440, 780), (23530440, 840),
    (23802600, 780), (24054600, 840), (24326760, 780), (24578760, 840), (24850920, 780),
    (25102920, 840), (25375080, 780), (25637160, 840), (25909320, 780), (26161320, 840),
    (26433480, 780), (26685480, 840), (26957640, 780)]

/-- The zone `Pacific/Kiritimati`. -/
def pacificKiritimati : Zone where
  name := "Pacific/Kiritimati"
  oldest := 840
  changes := []

/-- The zone `Pacific/Chatham`. -/
def pacificChatham : Zone where
  name := "Pacific/Chatham"
  oldest := 825
  changes := [
    (18520680, 765), (18802920, 825), (19044840, 765), (19327080, 825), (19569000, 765),
    (19851240, 825), (20123400, 765), (20375400, 825), (20647560, 765), (20899560, 825),
    (21171720, 765), (21423720, 825), (21695880, 765), (21947880, 825), (22220040, 765),
    (22482120, 825), (22754280, 765), (23006280, 825), (23278440, 765), (23530440, 825),
    (23802600, 765), (24054600, 825), (24326760, 765), (24578760, 825), (24850920, 765),
    (25102920, 825), (25375080, 765), (25637160, 825), (25909320, 765), (26161320, 825),
    (26433480, 765), (26685480, 825), (26957640, 765), (27209640, 825), (27481800, 765),
    (27733800, 825), (28005960, 765), (28257960, 825), (28540200, 765), (28792200, 825),
    (29064360, 765), (29316360, 825), (29588520, 765), (29840520, 825), (30112680, 765),
    (30364680, 825), (30636840, 765), (30888840, 825), (31161000, 765), (31423080, 825),
    (31695240, 765), (31947240, 825), (32219400, 765), (32471400, 825), (32743560, 765),
    (32995560, 825), (33267720, 765), (33519720, 825), (33791880, 765), (34043880, 825),
    (34316040, 765), (34578120, 825), (34850280, 765), (35102280, 825), (35374440, 765),
    (35626440, 825), (35898600, 765), (36150600, 825), (36422760, 765), (36674760, 825),
    (36946920, 765), (37209000, 825), (37481160, 765), (37733160, 825), (38005320, 765),
    (38257320, 825), (38529480, 765), (38781480, 825), (39053640, 765), (39305640, 825),
    (39577800, 765), (39829800, 825), (40101960, 765), (40364040, 825), (40636200, 765),
    (40888200, 825), (41160360, 765), (41412360, 825), (41684520, 765), (41936520, 825),
    (42208680, 765), (42460680, 825), (42732840, 765), (42984840, 825), (43267080, 765),
    (43519080, 825), (43791240, 765), (44043240, 825), (44315400, 765), (44567400, 825),
    (44839560, 765), (45091560, 825), (45363720, 765), (45615720, 825), (45887880, 765),
    (46149960, 825), (46422120, 765), (46674120, 825), (46946280, 765), (47198280, 825),
    (47470440, 765), (47722440, 825), (47994600, 765), (48246600, 825), (48518760, 765),
    (48770760, 825), (49042920, 765), (49305000, 825), (49577160, 765), (49829160, 825),
    (50101320, 765), (50353320, 825), (50625480, 765), (50877480, 825), (51149640, 765),
    (51401640, 825), (51673800, 765), (51935880, 825), (52208040, 765), (52460040, 825),
    (52732200, 765), (52984200, 825), (53256360, 765), (53508360, 825), (53780520, 765),
    (54032520, 825), (54304680, 765), (54556680, 825), (54828840, 765), (55090920, 825),
    (55363080, 765), (55615080, 825), (55887240, 765), (56139240, 825), (56411400, 765),
    (56663400, 825), (56935560, 765), (57187560, 825), (57459720, 765), (57711720, 825),
    (57993960, 765), (58245960, 825), (58518120, 765), (58770120, 825), (59042280, 765),
    (59294280, 825), (59566440, 765), (59818440, 825), (60090600, 765), (60342600, 825),
    (60614760, 765), (60876840, 825), (61149000, 765), (61401000, 825), (61673160, 765),
    (61925160, 825), (62197320, 765), (62449320, 825), (62721480, 765), (62973480, 825),
    (63245640, 765), (63497640, 825), (63769800, 765), (64031880, 825), (64304040, 765),
    (64556040, 825), (64828200, 765), (65080200, 825), (65352360, 765), (65604360, 825),
    (65876520, 765), (66128520, 825), (66400680, 765), (66662760, 825), (66934920, 765),
    (67186920, 825), (67459080, 765), (67711080, 825), (67983240, 765), (68235240, 825)]

/-- The zone `Etc/GMT+5`. -/
def etcGmtPlus5 : Zone where
  name := "Etc/GMT+5"
  oldest := -300
  changes := []

/-- The zones of this table. -/
def known : List Zone :=
  [utc, europePrague, europeLondon, americaNewYork, americaStJohns,
    americaSaoPaulo, americaSantiago, asiaKolkata, asiaKathmandu, asiaTokyo,
    asiaBeirut, australiaLordHowe, pacificApia, pacificKiritimati, pacificChatham,
    etcGmtPlus5]

end JobDispatch.Zone

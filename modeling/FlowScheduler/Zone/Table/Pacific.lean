/-!
Zone histories of the Pacific; see `FlowScheduler.Zone.Database` for the notation.
-/

namespace FlowScheduler.Zone.Table

/-- Names with histories. -/
def pacific : List (String × List String) := [
  ("Pacific/Apia",
    ["45184 -2445424384>-41216 -1861878784>-41400 -631110600>-39600 1285498800>-36000",
     "1301752800>-39600 1316872800>-36000 1325239200>50400 1333202400>46800 1348927200>50400",
     "1365256800>46800 1380376800>50400 1396706400>46800 1411826400>50400 1428156000>46800",
     "1443276000>50400 1459605600>46800 1474725600>50400 1491055200>46800 1506175200>50400",
     "1522504800>46800 1538229600>50400 1554559200>46800 1569679200>50400 1586008800>46800",
     "1601128800>50400 1617458400>46800"]),
  ("Pacific/Auckland",
    ["41944 -3192435544>41400 -1330335000>45000 -1320057000>41400 -1300699800>43200",
     "-1287396000>41400 -1269250200>43200 -1255946400>41400 -1237800600>43200 -1224496800>41400",
     "-1206351000>43200 -1192442400>41400 -1174901400>43200 -1160992800>41400 -1143451800>43200",
     "-1125914400>41400 -1112607000>43200 -1094464800>41400 -1081157400>43200 -1063015200>41400",
     "-1049707800>43200 -1031565600>41400 -1018258200>43200 -1000116000>41400 -986808600>43200",
     "-968061600>41400 -955359000>43200 -936612000>41400 -923304600>43200 152632800>46800",
     "162309600>43200 183477600>46800 194968800>43200 215532000>46800 226418400>43200",
     "246981600>46800 257868000>43200 278431200>46800 289317600>43200 309880800>46800",
     "320767200>43200 341330400>46800 352216800>43200 372780000>46800 384271200>43200",
     "404834400>46800 415720800>43200 436284000>46800 447170400>43200 467733600>46800",
     "478620000>43200 499183200>46800 510069600>43200 530632800>46800 541519200>43200",
     "562082400>46800 573573600>43200 594136800>46800 605023200>43200 623772000>46800",
     "637682400>43200 655221600>46800 669132000>43200 686671200>46800 700581600>43200",
     "718120800>46800 732636000>43200 749570400>46800 764085600>43200 781020000>46800",
     "795535200>43200 812469600>46800 826984800>43200 844524000>46800 858434400>43200",
     "875973600>46800 889884000>43200 907423200>46800 921938400>43200 938872800>46800",
     "953388000>43200 970322400>46800 984837600>43200 1002376800>46800 1016287200>43200",
     "1033826400>46800 1047736800>43200 1065276000>46800 1079791200>43200 1096725600>46800",
     "1111240800>43200 1128175200>46800 1142690400>43200 1159624800>46800 1174140000>43200",
     "1191074400>46800 | 2008 4/6/1/-36000/43200 9/5/23/50400/46800"]),
  ("Pacific/Bougainville",
    ["37336 -2840178136>35312 -2366790512>36000 -868010400>32400 -768906000>36000",
     "1419696000>39600"]),
  ("Pacific/Chatham",
    ["44028 -3192437628>44100 -757426500>45900 152632800>49500 162309600>45900 183477600>49500",
     "194968800>45900 215532000>49500 226418400>45900 246981600>49500 257868000>45900",
     "278431200>49500 289317600>45900 309880800>49500 320767200>45900 341330400>49500",
     "352216800>45900 372780000>49500 384271200>45900 404834400>49500 415720800>45900",
     "436284000>49500 447170400>45900 467733600>49500 478620000>45900 499183200>49500",
     "510069600>45900 530632800>49500 541519200>45900 562082400>49500 573573600>45900",
     "594136800>49500 605023200>45900 623772000>49500 637682400>45900 655221600>49500",
     "669132000>45900 686671200>49500 700581600>45900 718120800>49500 732636000>45900",
     "749570400>49500 764085600>45900 781020000>49500 795535200>45900 812469600>49500",
     "826984800>45900 844524000>49500 858434400>45900 875973600>49500 889884000>45900",
     "907423200>49500 921938400>45900 938872800>49500 953388000>45900 970322400>49500",
     "984837600>45900 1002376800>49500 1016287200>45900 1033826400>49500 1047736800>45900",
     "1065276000>49500 1079791200>45900 1096725600>49500 1111240800>45900 1128175200>49500",
     "1142690400>45900 1159624800>49500 1174140000>45900 1191074400>49500 | 2008",
     "4/6/1/-36000/45900 9/5/23/50400/49500"]),
  ("Pacific/Easter",
    ["-26248 -1178124152>-25200 -36619200>-21600 -23922000>-25200 -3355200>-21600 7527600>-25200",
     "24465600>-21600 37767600>-25200 55915200>-21600 69217200>-25200 87969600>-21600",
     "100666800>-25200 118209600>-21600 132116400>-25200 150868800>-21600 163566000>-25200",
     "182318400>-21600 195620400>-25200 213768000>-21600 227070000>-25200 245217600>-21600",
     "258519600>-25200 277272000>-21600 289969200>-25200 308721600>-21600 321418800>-25200",
     "340171200>-21600 353473200>-25200 371620800>-21600 403070400>-18000 416372400>-21600",
     "434520000>-18000 447822000>-21600 466574400>-18000 479271600>-21600 498024000>-18000",
     "510721200>-21600 529473600>-18000 545194800>-21600 560923200>-18000 574225200>-21600",
     "592372800>-18000 605674800>-21600 624427200>-18000 637124400>-21600 653457600>-18000",
     "668574000>-21600 687326400>-18000 700628400>-21600 718776000>-18000 732078000>-21600",
     "750225600>-18000 763527600>-21600 781675200>-18000 794977200>-21600 813729600>-18000",
     "826426800>-21600 845179200>-18000 859690800>-21600 876628800>-18000 889930800>-21600",
     "906868800>-18000 923194800>-21600 939528000>-18000 952830000>-21600 971582400>-18000",
     "984279600>-21600 1003032000>-18000 1015729200>-21600 1034481600>-18000 1047178800>-21600",
     "1065931200>-18000 1079233200>-21600 1097380800>-18000 1110682800>-21600 1128830400>-18000",
     "1142132400>-21600 1160884800>-18000 1173582000>-21600 1192334400>-18000 1206846000>-21600",
     "1223784000>-18000 1237086000>-21600 1255233600>-18000 1270350000>-21600 1286683200>-18000",
     "1304823600>-21600 1313899200>-18000 1335668400>-21600 1346558400>-18000 1367118000>-21600",
     "1378612800>-18000 1398567600>-21600 1410062400>-18000 1463281200>-21600 1471147200>-18000",
     "1494730800>-21600 1502596800>-18000 1526180400>-21600 1534046400>-18000 1554606000>-21600",
     "1567915200>-18000 1586055600>-21600 1599364800>-18000 1617505200>-21600 1630814400>-18000",
     "1648954800>-21600 1662868800>-18000 | 2023 4/6/2/10800/-21600 9/6/2/14400/-18000"]),
  ("Pacific/Efate",
    ["40396 -1829387596>39600 125409600>43200 133876800>39600 433256400>43200 448977600>39600",
     "464706000>43200 480427200>39600 496760400>43200 511876800>39600 528210000>43200",
     "543931200>39600 559659600>43200 575380800>39600 591109200>43200 606830400>39600",
     "622558800>43200 638280000>39600 654008400>43200 669729600>39600 686062800>43200",
     "696340800>39600 719931600>43200 727790400>39600"]),
  ("Pacific/Fakaofo",
    ["-41096 -2177411704>-39600 1325242800>46800"]),
  ("Pacific/Fiji",
    ["42944 -1709985344>43200 909842400>46800 920124000>43200 941896800>46800 951573600>43200",
     "1259416800>46800 1269698400>43200 1287842400>46800 1299333600>43200 1319292000>46800",
     "1327154400>43200 1350741600>46800 1358604000>43200 1382796000>46800 1390050000>43200",
     "1414850400>46800 1421503200>43200 1446300000>46800 1452952800>43200 1478354400>46800",
     "1484402400>43200 1509804000>46800 1515852000>43200 1541253600>46800 1547301600>43200",
     "1573308000>46800 1578751200>43200 1608386400>46800 1610805600>43200"]),
  ("Pacific/Galapagos",
    ["-21504 -1230746496>-18000 504939600>-21600 722930400>-18000 728888400>-21600"]),
  ("Pacific/Gambier",
    ["-32388 -1806678012>-32400"]),
  ("Pacific/Guadalcanal",
    ["38388 -1806748788>39600"]),
  ("Pacific/Guam",
    ["-51660 -3944626740>34740 -2177487540>36000 -885549600>32400 -802256400>36000",
     "-331891200>39600 -281610000>36000 -73728000>39600 -29415540>36000 -16704000>39600",
     "-10659600>36000 9907200>39600 21394800>36000 41356800>39600 52844400>36000 124819200>39600",
     "130863600>36000 201888000>39600 209487660>36000 230659200>39600 241542000>36000"]),
  ("Pacific/Honolulu",
    ["-37886 -2334101314>-37800 -1157283000>-34200 -1155436200>-37800 -880198200>-34200",
     "-765376200>-37800 -712150200>-36000"]),
  ("Pacific/Kanton",
    ["0 -1020470400>-43200 307627200>-39600 788871600>46800"]),
  ("Pacific/Kiritimati",
    ["-37760 -2177415040>-38400 307622400>-36000 788868000>50400"]),
  ("Pacific/Kosrae",
    ["-47284 -3944631116>39116 -2177491916>39600 -1743678000>32400 -1606813200>39600",
     "-1041418800>36000 -907408800>32400 -770634000>39600 -7988400>43200 915105600>39600"]),
  ("Pacific/Kwajalein",
    ["40160 -2177492960>39600 -1041418800>36000 -907408800>32400 -817462800>39600",
     "-7988400>-43200 745934400>43200"]),
  ("Pacific/Marquesas",
    ["-33480 -1806676920>-34200"]),
  ("Pacific/Nauru",
    ["40060 -1545131260>41400 -862918200>32400 -767350800>41400 287418600>43200"]),
  ("Pacific/Niue",
    ["-40780 -543069620>-40800 -173623200>-39600"]),
  ("Pacific/Norfolk",
    ["40312 -2177493112>40320 -599656320>41400 152029800>45000 162916200>41400 1443882600>39600",
     "1570287600>43200 | 2020 4/6/1/-32400/39600 10/6/1/-32400/43200"]),
  ("Pacific/Noumea",
    ["39948 -1829387148>39600 250002000>43200 257342400>39600 281451600>43200 288878400>39600",
     "849366000>43200 857228400>39600"]),
  ("Pacific/Pago_Pago",
    ["45432 -2445424632>-40968 -1861879032>-39600"]),
  ("Pacific/Palau",
    ["-54124 -3944624276>32276 -2177485076>32400"]),
  ("Pacific/Pitcairn",
    ["-31220 -2177421580>-30600 893665800>-28800"]),
  ("Pacific/Port_Moresby",
    ["35320 -2840176120>35312 -2366790512>36000"]),
  ("Pacific/Rarotonga",
    ["48056 -2209555256>-38344 -543072056>-37800 279714600>-34200 289387800>-36000",
     "309952800>-34200 320837400>-36000 341402400>-34200 352287000>-36000 372852000>-34200",
     "384341400>-36000 404906400>-34200 415791000>-36000 436356000>-34200 447240600>-36000",
     "467805600>-34200 478690200>-36000 499255200>-34200 510139800>-36000 530704800>-34200",
     "541589400>-36000 562154400>-34200 573643800>-36000 594208800>-34200 605093400>-36000",
     "625658400>-34200 636543000>-36000 657108000>-34200 667992600>-36000"]),
  ("Pacific/Tahiti",
    ["-35896 -1806674504>-36000"]),
  ("Pacific/Tarawa",
    ["41524 -2177494324>43200"]),
  ("Pacific/Tongatapu",
    ["44352 -767189952>44400 -284041200>46800 939214800>50400 953384400>46800 973342800>50400",
     "980596800>46800 1004792400>50400 1012046400>46800 1478350800>50400 1484398800>46800"])]

end FlowScheduler.Zone.Table
